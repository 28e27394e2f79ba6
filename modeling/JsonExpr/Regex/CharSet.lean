import JsonExpr.Text.Case
import JsonExpr.Text.Letter

/-!
# Sets of characters in patterns

A set is built from ranges and character properties by set operations; it may also be closed under
case folding, either the folding of all letters or that of the ASCII letters alone.

Main definitions:

* `JsonExpr.Regex.CharSet` — the sets;
* `JsonExpr.Regex.CharSet.has` — membership;
* `JsonExpr.Regex.CharSet.ofAsciiName?` — the sets that brackets name inside brackets;
* `JsonExpr.Regex.CharSet.ranges` — the set as increasing ranges of code points.
-/

set_option autoImplicit false

namespace JsonExpr.Regex

/-- A set of characters. -/
inductive CharSet where
  /-- No character. -/
  | empty
  /-- The characters between two, both included. -/
  | range (first last : Char)
  /-- Every `step`-th code point from `first` to `last`. -/
  | progression (first last step : Nat)
  /-- The characters of a property. -/
  | bounded (bounds : Text.Boundaries)
  /-- The characters of either set. -/
  | union (a b : CharSet)
  /-- The characters of both sets. -/
  | inter (a b : CharSet)
  /-- The characters of the first set that are not in the second. -/
  | diff (a b : CharSet)
  /-- The characters of exactly one of the sets. -/
  | symmDiff (a b : CharSet)
  /-- The characters that are not in the set. -/
  | complement (a : CharSet)
  /-- The characters that fold like one of the set. -/
  | folded (a : CharSet)
  /-- The characters that are in the set in upper or in lower case, of ASCII letters alone. -/
  | asciiFolded (a : CharSet)
  deriving Repr

namespace CharSet

/-- Membership. -/
def has : CharSet → Char → Bool
  | empty, _ => false
  | range first last, c => first ≤ c && c ≤ last
  | progression first last step, c =>
    first ≤ c.toNat && c.toNat ≤ last && (c.toNat - first) % step == 0
  | bounded bounds, c => bounds.has c
  | union a b, c => has a c || has b c
  | inter a b, c => has a c && has b c
  | diff a b, c => has a c && !has b c
  | symmDiff a b, c => has a c != has b c
  | complement a, c => !has a c
  | folded a, c => (Text.foldMates c).any fun d => has a d
  | asciiFolded a, c => has a c || has a c.toLower || has a c.toUpper

/-- One character. -/
def single (c : Char) : CharSet := range c c

/-- Any character. -/
def any : CharSet := complement empty

/-- The characters of any of the sets. -/
def unions (sets : List CharSet) : CharSet := sets.foldl union empty

/-- The characters that a table of case mappings maps. -/
def mapped (runs : List Text.CaseRun) : CharSet :=
  unions (runs.map fun r => progression r.first r.last r.step)

/-! ### Digits, blanks and words -/

/-- Decimal digits of any script. -/
def digits : CharSet := bounded Text.LetterTable.decimalDigit

/-- What words are made of, in any script. -/
def wordCharacters : CharSet := bounded Text.LetterTable.wordCharacter

/-- White space. -/
def blanks : CharSet :=
  unions [range '\x09' '\x0d', single ' ', single '\x85', single '\u00a0', single '\u1680',
    range '\u2000' '\u200a', range '\u2028' '\u2029', single '\u202f', single '\u205f',
    single '\u3000']

/-- The ASCII decimal digits. -/
def asciiDigits : CharSet := range '0' '9'

/-- The ASCII letters. -/
def asciiLetters : CharSet := union (range 'A' 'Z') (range 'a' 'z')

/-- What ASCII words are made of. -/
def asciiWordCharacters : CharSet := unions [asciiLetters, asciiDigits, single '_']

/-- The ASCII white space. -/
def asciiBlanks : CharSet := union (range '\x09' '\x0d') (single ' ')

/-! ### Names inside brackets -/

/-- The set of an ASCII class name. -/
def ofAsciiName? : String → Option CharSet
  | "alnum" => some (union asciiLetters asciiDigits)
  | "alpha" => some asciiLetters
  | "ascii" => some (range '\x00' '\x7f')
  | "blank" => some (union (single '\t') (single ' '))
  | "cntrl" => some (union (range '\x00' '\x1f') (single '\x7f'))
  | "digit" => some asciiDigits
  | "graph" => some (range '!' '~')
  | "lower" => some (range 'a' 'z')
  | "print" => some (range ' ' '~')
  | "punct" => some (unions [range '!' '/', range ':' '@', range '[' '\x60', range '\x7b' '~'])
  | "space" => some asciiBlanks
  | "upper" => some (range 'A' 'Z')
  | "word" => some asciiWordCharacters
  | "xdigit" => some (unions [asciiDigits, range 'A' 'F', range 'a' 'f'])
  | _ => none

/-! ### Ranges -/

/-- The code points between two, the first included and the second not. -/
abbrev CodeRange := Nat × Nat

/-- The code points at which folding may put characters side by side that are not. -/
def foldingCuts : List Nat :=
  Text.CaseTable.fold.flatMap fun r =>
    (List.range ((r.last - r.first) / r.step + 1)).flatMap fun i =>
      let n := r.first + i * r.step
      [n, n + 1, r.image n, r.image n + 1]

/-- Code points, not in order, among which are all at which membership changes. -/
def cuts : CharSet → List Nat
  | empty => []
  | range first last => [first.toNat, last.toNat + 1]
  | progression first last step =>
    (List.range ((last - first) / step + 1)).flatMap fun i =>
      [first + i * step, first + i * step + 1]
  | bounded bounds => bounds
  | union a b | inter a b | diff a b | symmDiff a b => cuts a ++ cuts b
  | complement a => cuts a
  | folded a => foldingCuts ++ cuts a
  | asciiFolded a => (List.range 0x80) ++ cuts a

/-- The first code point that is no character. -/
def surrogateStart : Nat := 0xd800

/-- The code point after the last one in that gap. -/
def surrogateEnd : Nat := 0xe000

/-- The code point after the last character. -/
def codeEnd : Nat := 0x110000

/-- Whether a code point is a character of the set. -/
def hasCode (s : CharSet) (n : Nat) : Bool := n.isValidChar && s.has (Char.ofNat n)

/-- Joins ranges that touch each other. -/
def joinRanges : List CodeRange → List CodeRange
  | (a, b) :: (c, d) :: rest =>
    if b = c then joinRanges ((a, d) :: rest) else (a, b) :: joinRanges ((c, d) :: rest)
  | rs => rs
termination_by rs => rs.length

/-- The set as increasing ranges of code points, none of which touches the next. -/
def ranges (s : CharSet) : List CodeRange :=
  let points := (surrogateStart :: surrogateEnd :: 0 :: codeEnd :: cuts s).mergeSort.eraseReps
  joinRanges ((points.zip (points.drop 1)).filter fun r => s.hasCode r.1)

end CharSet

end JsonExpr.Regex
