import JsonExpr.Regex.PropertyName

/-!
# The phrases of pattern text

What a pattern text says, before it is known which characters its classes contain.  Settings of
flags are phrases of their own: they hold for what follows them in the same group, across
alternatives.

Phrases may be nested in each other to a limit.  A phrase that contains others counts as one level
above the deepest of them, and so does a row of phrases and a choice between them; a phrase without
parts counts nothing.

Main definitions:

* `JsonExpr.Regex.ClassPhrase`, `JsonExpr.Regex.Phrase` — what a pattern text says;
* `JsonExpr.Regex.ClassPhrase.depth`, `JsonExpr.Regex.Phrase.depth` — how deep phrases are nested.
-/

set_option autoImplicit false

namespace JsonExpr.Regex

/-! ### Parts of phrases -/

/-- What may be switched on and off in the middle of a pattern. -/
inductive Flag where
  /-- Case is ignored. -/
  | ignoreCase
  /-- The line anchors look at lines instead of the whole text. -/
  | multiLine
  /-- The point matches the end of a line too. -/
  | dotAll
  /-- A carriage return ends a line. -/
  | crlf
  /-- Repetitions are lazy unless they are marked. -/
  | swapGreed
  /-- Classes are those of all scripts. -/
  | unicode
  /-- Blanks and comments in the pattern are passed over. -/
  | extended
  deriving DecidableEq, Repr

/-- The flag that a letter stands for. -/
def Flag.ofLetter? : Char → Option Flag
  | 'i' => some ignoreCase
  | 'm' => some multiLine
  | 's' => some dotAll
  | 'R' => some crlf
  | 'U' => some swapGreed
  | 'u' => some unicode
  | 'x' => some extended
  | _ => none

/-- Flags switched on or off, in the order in which they are written. -/
abbrev FlagSettings := List (Flag × Bool)

/-- A character, and whether it is written as a byte, with two hexadecimal digits. -/
structure Literal where
  /-- The character. -/
  char : Char
  /-- Whether it is written as a byte. -/
  asByte : Bool := false
  deriving DecidableEq, Repr

/-- The classes that have a letter of their own. -/
inductive ShortClass where
  /-- Decimal digits. -/
  | digit
  /-- White space. -/
  | blank
  /-- What words are made of. -/
  | word
  deriving DecidableEq, Repr

/-- The operations between the parts of a class. -/
inductive SetOperation where
  /-- What is in both. -/
  | inter
  /-- What is in the left and not in the right. -/
  | diff
  /-- What is in exactly one of them. -/
  | symmDiff
  deriving DecidableEq, Repr

/-- The anchors as they are written; what they mean depends on the flags. -/
inductive AnchorSign where
  /-- The start of the text or of a line. -/
  | caret
  /-- The end of the text or of a line. -/
  | dollar
  /-- The start of the text. -/
  | textStart
  /-- The end of the text. -/
  | textEnd
  /-- Between a word and what is no word. -/
  | wordBoundary
  /-- Anywhere else. -/
  | noWordBoundary
  /-- Where a word starts. -/
  | wordStart
  /-- Where a word ends. -/
  | wordEnd
  /-- Behind what is no word. -/
  | wordStartHalf
  /-- In front of what is no word. -/
  | wordEndHalf
  deriving DecidableEq, Repr

/-! ### Phrases -/

/-- What stands for one character out of a set. -/
inductive ClassPhrase where
  /-- Nothing, as between the signs of two operations. -/
  | nothing
  /-- One character. -/
  | char (l : Literal)
  /-- The characters between two. -/
  | range (first last : Literal)
  /-- A set of ASCII characters, named inside brackets. -/
  | ascii (set : CharSet) (negated : Bool)
  /-- A class with a letter of its own. -/
  | short (c : ShortClass) (negated : Bool)
  /-- A property of characters. -/
  | property (q : PropertyQuery) (negated : Bool)
  /-- A class in brackets. -/
  | bracket (negated : Bool) (inner : ClassPhrase)
  /-- At least two items of a class. -/
  | union (items : List ClassPhrase)
  /-- Two parts of a class with an operation between them. -/
  | operate (op : SetOperation) (left right : ClassPhrase)
  deriving Repr

/-- What a pattern text says. -/
inductive Phrase where
  /-- Nothing. -/
  | empty
  /-- A setting of flags for what follows. -/
  | flags (settings : FlagSettings)
  /-- A character. -/
  | char (l : Literal)
  /-- The point, which stands for almost any character. -/
  | dot
  /-- An anchor. -/
  | anchor (a : AnchorSign)
  /-- One character out of a set. -/
  | oneOf (c : ClassPhrase)
  /-- At least `least` times what a phrase says, and at most `most` times if there is a bound. -/
  | repeated (p : Phrase) (least : Nat) (most : Option Nat)
  /-- A group, with flags for its inside; what it matches may be captured. -/
  | group (captures : Bool) (settings : FlagSettings) (p : Phrase)
  /-- At least two phrases in a row. -/
  | row (ps : List Phrase)
  /-- At least two phrases to choose from. -/
  | choice (ps : List Phrase)
  deriving Repr

/-! ### Depth -/

mutual

/-- How deep a class is nested. -/
def ClassPhrase.depth : ClassPhrase → Nat
  | .nothing | .char _ | .range _ _ | .ascii _ _ | .short _ _ | .property _ _ => 0
  | .bracket _ inner => inner.depth + 1
  | .union items => ClassPhrase.depthOfAll items + 1
  | .operate _ left right => max left.depth right.depth + 1

/-- The depth of the deepest of some classes. -/
def ClassPhrase.depthOfAll : List ClassPhrase → Nat
  | [] => 0
  | item :: rest => max item.depth (ClassPhrase.depthOfAll rest)

end

mutual

/-- How deep a phrase is nested. -/
def Phrase.depth : Phrase → Nat
  | .empty | .flags _ | .char _ | .dot | .anchor _ => 0
  | .oneOf c => c.depth
  | .repeated p _ _ => p.depth + 1
  | .group _ _ p => p.depth + 1
  | .row ps => Phrase.depthOfAll ps + 1
  | .choice ps => Phrase.depthOfAll ps + 1

/-- The depth of the deepest of some phrases. -/
def Phrase.depthOfAll : List Phrase → Nat
  | [] => 0
  | p :: rest => max p.depth (Phrase.depthOfAll rest)

end

/-! ### Rows and choices -/

/-- Some items of a class as one phrase. -/
def ClassPhrase.ofItems : List ClassPhrase → ClassPhrase
  | [] => .nothing
  | [item] => item
  | items => .union items

/-- Some phrases in a row as one phrase. -/
def Phrase.ofRow : List Phrase → Phrase
  | [] => .empty
  | [p] => p
  | ps => .row ps

/-- Some phrases to choose from as one phrase. -/
def Phrase.ofChoice : List Phrase → Phrase
  | [] => .empty
  | [p] => p
  | ps => .choice ps

end JsonExpr.Regex
