import JsonExpr.Regex.CharSet

/-!
# Patterns and where they match

A pattern is matched by tracing sets of positions: from the positions at which a match of a pattern
may start, one finds the positions at which it may end.  Whether the whole text contains a match
does not depend on the order in which alternatives are tried, so greedy and lazy repetition are one.

Main definitions:

* `JsonExpr.Regex.Anchor`, `JsonExpr.Regex.Pattern` — patterns;
* `JsonExpr.Regex.Anchor.holds` — whether an anchor holds between two characters;
* `JsonExpr.Regex.Pattern.advance` — from starting positions to ending positions;
* `JsonExpr.Regex.Pattern.matchesIn` — whether a text contains a match.
-/

set_option autoImplicit false

namespace JsonExpr.Regex

/-- A condition on the place between two characters.  `ascii` restricts words to ASCII. -/
inductive Anchor where
  /-- The start of the text. -/
  | textStart
  /-- The end of the text. -/
  | textEnd
  /-- The start of a line; with `crlf`, a carriage return ends a line too. -/
  | lineStart (crlf : Bool)
  /-- The end of a line. -/
  | lineEnd (crlf : Bool)
  /-- Between a word and what is no word. -/
  | wordBoundary (ascii : Bool)
  /-- Anywhere else. -/
  | noWordBoundary (ascii : Bool)
  /-- Where a word starts. -/
  | wordStart (ascii : Bool)
  /-- Where a word ends. -/
  | wordEnd (ascii : Bool)
  /-- Behind what is no word. -/
  | wordStartHalf (ascii : Bool)
  /-- In front of what is no word. -/
  | wordEndHalf (ascii : Bool)
  deriving DecidableEq, Repr

namespace Anchor

/-- Whether a character that may be absent belongs to a word. -/
def isWord (ascii : Bool) (c : Option Char) : Bool :=
  c.any (if ascii then CharSet.asciiWordCharacters else CharSet.wordCharacters).has

/-- Whether the anchor holds between the character `before` and the character `after`. -/
def holds (a : Anchor) (before after : Option Char) : Bool :=
  match a with
  | textStart => before.isNone
  | textEnd => after.isNone
  | lineStart false => before.isNone || before == some '\n'
  | lineEnd false => after.isNone || after == some '\n'
  | lineStart true =>
    before.isNone || before == some '\n' || (before == some '\r' && after != some '\n')
  | lineEnd true =>
    after.isNone || after == some '\r' || (after == some '\n' && before != some '\r')
  | wordBoundary ascii => isWord ascii before != isWord ascii after
  | noWordBoundary ascii => isWord ascii before == isWord ascii after
  | wordStart ascii => !isWord ascii before && isWord ascii after
  | wordEnd ascii => isWord ascii before && !isWord ascii after
  | wordStartHalf ascii => !isWord ascii before
  | wordEndHalf ascii => !isWord ascii after

end Anchor

/-- A pattern. -/
inductive Pattern where
  /-- Matches the empty text. -/
  | empty
  /-- Matches one character of a set. -/
  | one (set : CharSet)
  /-- Matches the empty text where the anchor holds. -/
  | anchor (a : Anchor)
  /-- Matches a match of the first pattern, then one of the second. -/
  | seq (p q : Pattern)
  /-- Matches what either pattern matches. -/
  | alt (p q : Pattern)
  /-- Matches at least `least` matches in a row, and at most `most` if there is a bound. -/
  | rep (p : Pattern) (least : Nat) (most : Option Nat)
  /-- Matches what the pattern matches, and could tell where that was. -/
  | capture (p : Pattern)
  deriving Repr

namespace Pattern

/-- One pattern after another; what is empty is left out. -/
def andThen : Pattern → Pattern → Pattern
  | empty, q => q
  | p, empty => p
  | p, q => seq p q

/-- Either of two patterns; two sets of characters become one. -/
def orElse : Pattern → Pattern → Pattern
  | one a, one b => one (.union a b)
  | p, q => alt p q

/-- Two increasing lists of positions as one. -/
def mergePositions : List Nat → List Nat → List Nat
  | [], bs => bs
  | a :: as, bs =>
    bs.takeWhile (· < a) ++ a :: mergePositions as (bs.dropWhile (· ≤ a))

/-- Applies `step` `n` times to a set of positions, or until nothing is left. -/
def iterate (step : List Nat → List Nat) : Nat → List Nat → List Nat
  | 0, positions => positions
  | n + 1, positions => if positions.isEmpty then [] else iterate step n (step positions)

/-- The positions reached by applying `step` up to `n` times, where `frontier` was reached last. -/
def closure (step : List Nat → List Nat) : Nat → List Nat → List Nat → List Nat
  | 0, reached, _ => reached
  | n + 1, reached, frontier =>
    let fresh := (step frontier).filter fun i => !reached.contains i
    if fresh.isEmpty then reached else closure step n (mergePositions reached fresh) fresh

/-- The character before a position. -/
def charBefore (text : Array Char) (i : Nat) : Option Char := if i = 0 then none else text[i - 1]?

/-- The positions, in increasing order, at which a match may end that starts at one of `starts`.
After as many repetitions as the text has characters, further ones change nothing. -/
def advance (text : Array Char) : Pattern → List Nat → List Nat
  | empty, starts => starts
  | one set, starts => (starts.filter fun i => (text[i]?).any set.has).map (· + 1)
  | anchor a, starts => starts.filter fun i => a.holds (charBefore text i) text[i]?
  | seq p q, starts => advance text q (advance text p starts)
  | alt p q, starts => mergePositions (advance text p starts) (advance text q starts)
  | rep p least most, starts =>
    let enough := text.size + 1
    let first := iterate (advance text p) (min least enough) starts
    let further := match most with
      | none => enough
      | some n => min (n - least) enough
    closure (advance text p) further first first
  | capture p, starts => advance text p starts

/-- Whether a text contains a match. -/
def matchesIn (p : Pattern) (text : String) : Bool :=
  let chars := text.toList.toArray
  !(advance chars p (List.range (chars.size + 1))).isEmpty

end Pattern

end JsonExpr.Regex
