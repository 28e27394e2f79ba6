import JsonExpr.Regex.Pattern

/-!
# The size of a pattern

A pattern stands for an automaton that reads a text byte by byte, forwards or backwards, and the
memory which its states take is limited: a pattern with too many repetitions is refused before it is
used.  Repetitions with bounds are written out, so their size grows with the bounds.

A class becomes an automaton on the bytes of its characters.  The ranges of its code points are cut
into sequences of byte ranges.  Forwards, states from which the same sequences follow are one state;
backwards, sequences share the states of a common start.

Main definitions:

* `JsonExpr.Regex.CharSet.sequences` — the sequences of byte ranges of a class;
* `JsonExpr.Regex.CharSet.size`, `JsonExpr.Regex.Pattern.size` — the memory that states take;
* `JsonExpr.Regex.Pattern.fits` — whether a pattern stays within the limit.
-/

set_option autoImplicit false

namespace JsonExpr.Regex

/-! ### Byte sequences -/

/-- The bytes between two, both included. -/
abbrev ByteRange := UInt8 × UInt8

/-- The last code point of a first part of the range from `first` to `last`, if the range has to be
cut: where the number of bytes changes, and where a block of continuation bytes begins or ends
inside the range. -/
def cutOf? (first last : Nat) : Option Nat :=
  let lengthCut := [0x7f, 0x7ff, 0xffff].find? fun n => first ≤ n && n < last
  let blockCut (block : Nat) : Option Nat :=
    if first / block = last / block then none
    else if first % block ≠ 0 then some (first / block * block + block - 1)
    else if last % block ≠ block - 1 then some (last / block * block - 1)
    else none
  lengthCut.or (if last < 0x80 then none else [0x40, 0x1000, 0x40000].findSome? blockCut)

/-- The bytes of a code point. -/
def bytesOf (n : Nat) : List UInt8 := String.utf8EncodeChar (Char.ofNat n)

/-- The sequences of byte ranges of the characters from `first` to `last`, in order.  `fuel` bounds
how often a range is cut in two. -/
def rangeSequences : Nat → Nat → Nat → List (List ByteRange)
  | 0, _, _ => []
  | fuel + 1, first, last =>
    match cutOf? first last with
    | some n => rangeSequences fuel first n ++ rangeSequences fuel (n + 1) last
    | none => [(bytesOf first).zip (bytesOf last)]

/-- How often a range is cut in two at most: three times for the number of bytes, and twice for each
of three blocks on either side. -/
def maxCuts : Nat := 16

/-- The sequences of byte ranges of a class, in order. -/
def CharSet.sequences (ranges : List CharSet.CodeRange) : List (List ByteRange) :=
  ranges.flatMap fun r => rangeSequences maxCuts r.1 (r.2 - 1)

/-! ### Classes -/

/-- The memory of a state. -/
def stateSize : Nat := 32

/-- The memory of a labelled step from a state. -/
def stepSize : Nat := 8

/-- The memory of a step without label. -/
def branchSize : Nat := 4

/-- A state that chooses between two others. -/
def forkSize : Nat := stateSize + branchSize * 2

/-- How many byte ranges a sequence shares with the start of another one. -/
def sharedStart : List ByteRange → List ByteRange → Nat
  | a :: as, b :: bs => if a = b then sharedStart as bs + 1 else 0
  | _, _ => 0

/-- The number of different starts of sequences in order, after the sequence `before`. -/
def countStarts (before : List ByteRange) : List (List ByteRange) → Nat
  | [] => 0
  | s :: rest => s.length - sharedStart before s + countStarts s rest

/-- The sets of sequences that may follow when a part of one has been read, the whole set among
them.  `fuel` bounds the length of sequences. -/
def continuations : Nat → List (List ByteRange) → List (List (List ByteRange))
  | 0, _ => []
  | fuel + 1, seqs =>
    let groups := seqs.splitBy fun a b => a.head? == b.head?
    seqs :: groups.flatMap fun group =>
      let tails := group.map (·.drop 1)
      if tails.any (· ≠ []) then continuations fuel tails else []

/-- The number of first byte ranges of sequences in order. -/
def countHeads (seqs : List (List ByteRange)) : Nat :=
  (seqs.splitBy fun a b => a.head? == b.head?).length

/-- The memory for the automaton of a class, read `backwards` or forwards.  One character is read
byte by byte, and a class of ASCII characters in one step. -/
def CharSet.size (backwards : Bool) (s : CharSet) : Nat :=
  let ranges := s.ranges
  let lone := ranges.length == 1 && ranges.all fun r => r.1 + 1 == r.2
  if lone then stateSize * (ranges.flatMap fun r => bytesOf r.1).length
  else if ranges.all fun r => r.2 ≤ 0x80 then stateSize * 2 + stepSize * ranges.length
  else
    let seqs := CharSet.sequences ranges
    if backwards then
      stateSize * 2 + branchSize * seqs.length + stateSize * countStarts [] seqs
    else
      let states := (continuations 4 seqs).eraseDups
      states.foldl (fun size q => size + stateSize + stepSize * countHeads q) stateSize

/-! ### Patterns -/

namespace Pattern

/-- Whether the pattern may match the empty text. -/
def mayBeEmpty : Pattern → Bool
  | .empty | .anchor _ => true
  | .one _ => false
  | .seq p q => p.mayBeEmpty && q.mayBeEmpty
  | .alt p q => p.mayBeEmpty || q.mayBeEmpty
  | .rep p least _ => least == 0 || p.mayBeEmpty
  | .capture p => p.mayBeEmpty

/-- Whether the pattern matches nothing but the empty text. -/
def isEmptyOnly : Pattern → Bool
  | .empty | .anchor _ => true
  | .one _ => false
  | .seq p q | .alt p q => p.isEmptyOnly && q.isEmptyOnly
  | .rep p _ most => most == some 0 || p.isEmptyOnly
  | .capture p => p.isEmptyOnly

/-- The bounds of a repetition as far as they matter: what matches only the empty text need not be
repeated. -/
def boundsOf (p : Pattern) (least : Nat) (most : Option Nat) : Nat × Option Nat :=
  if p.isEmptyOnly then (min least 1, some (min (most.getD 1) 1)) else (least, most)

/-- The memory for repetitions of a pattern that takes `size`: copies that have to match, then a
loop or copies that may match. -/
def repeatedSize (size : Nat) (mayBeEmpty : Bool) : Nat → Option Nat → Nat
  | 0, none => if mayBeEmpty then size + forkSize * 2 + stateSize else size + forkSize
  | 0, some 1 => size + forkSize + stateSize
  | least, none => size * least + forkSize
  | least, some most =>
    let start := if least = 0 then stateSize else size * least
    if least = most then start else start + stateSize + (size + forkSize) * (most - least)

/-- What a pattern takes in memory. -/
structure Memory where
  /-- As a part of a row; what says nothing takes nothing. -/
  inRow : Nat
  /-- As a choice, without the two states that all alternatives share. -/
  inChoice : Nat

/-- The memory of a part of a row that is no choice. -/
def Memory.ofRow (inRow : Nat) : Memory := ⟨inRow, branchSize + max stateSize inRow⟩

/-- The memory of a whole pattern, which has at least one state. -/
def Memory.total (m : Memory) : Nat := max stateSize m.inRow

/-- The memory for the automaton of a pattern, read `backwards` or forwards. -/
def memory (backwards : Bool) : Pattern → Memory
  | .empty => .ofRow 0
  | .one s => .ofRow (s.size backwards)
  | .anchor _ => .ofRow stateSize
  | .seq p q => .ofRow ((p.memory backwards).inRow + (q.memory backwards).inRow)
  | .alt p q =>
    let branches := (p.memory backwards).inChoice + (q.memory backwards).inChoice
    ⟨stateSize * 2 + branches, branches⟩
  | .rep p least most =>
    match boundsOf p least most with
    | (0, some 0) => .ofRow 0
    | (1, some 1) => p.memory backwards
    | (least, most) =>
      .ofRow (repeatedSize (p.memory backwards).total p.mayBeEmpty least most)
  | .capture p => .ofRow ((p.memory backwards).total + if backwards then 0 else stateSize * 2)

/-- The memory of the states around every pattern: a loop over any byte in front, and the end. -/
def frameSize : Nat := forkSize + stateSize * 2 + stepSize + stateSize

/-- The memory that the automaton of a pattern takes in the direction that takes more. -/
def size (p : Pattern) : Nat :=
  frameSize + max (p.capture.memory false).total (p.memory true).total

/-- The number of states and classes of a pattern, repetitions written out. -/
def pieces : Pattern → Nat
  | .empty | .one _ | .anchor _ => 1
  | .seq p q | .alt p q => p.pieces + q.pieces + 2
  | .rep p least most => (p.pieces + 1) * (max least (most.getD least) + 1) + 2
  | .capture p => p.pieces + 2

/-- The greatest memory that a pattern may take. -/
def maxSize : Nat := 10485760

/-- A number of pieces that stays below the limit whatever the classes are, since none takes more
than a twentieth of it. -/
def fewPieces : Nat := 20

/-- Whether a pattern stays within the limit. -/
def fits (p : Pattern) : Bool := p.pieces ≤ fewPieces || p.size ≤ maxSize

end Pattern

end JsonExpr.Regex
