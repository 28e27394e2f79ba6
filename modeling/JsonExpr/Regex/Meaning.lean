import JsonExpr.Regex.Pattern
import JsonExpr.Regex.Phrase

/-!
# What phrases mean

The flags decide what a phrase matches: whether case counts, what a line is, and whether classes are
those of all scripts or of ASCII.  Where classes are those of ASCII, nothing may be written that
would match a byte outside ASCII on its own: no negated class, no point, no property of characters,
and in brackets no character outside ASCII.  So every match starts and ends between characters.

Main definitions:

* `JsonExpr.Regex.Flags` — the flags in effect;
* `JsonExpr.Regex.ClassPhrase.set?` — the characters of a class;
* `JsonExpr.Regex.Phrase.pattern?` — the pattern that a phrase means.
-/

set_option autoImplicit false

namespace JsonExpr.Regex

/-! ### Flags -/

/-- The flags in effect. -/
structure Flags where
  /-- Whether case is ignored. -/
  ignoreCase : Bool := false
  /-- Whether the line anchors look at lines instead of the whole text. -/
  multiLine : Bool := false
  /-- Whether the point matches the end of a line too. -/
  dotAll : Bool := false
  /-- Whether a carriage return ends a line. -/
  crlf : Bool := false
  /-- Whether classes are those of all scripts. -/
  unicode : Bool := true
  deriving DecidableEq, Repr

namespace Flags

/-- The flags with one of them set or cleared.  Two have no part in what a phrase matches. -/
def set (f : Flags) (setting : Flag × Bool) : Flags :=
  match setting.1 with
  | .ignoreCase => { f with ignoreCase := setting.2 }
  | .multiLine => { f with multiLine := setting.2 }
  | .dotAll => { f with dotAll := setting.2 }
  | .crlf => { f with crlf := setting.2 }
  | .unicode => { f with unicode := setting.2 }
  | .swapGreed | .extended => f

/-- The flags after some settings. -/
def after (f : Flags) (settings : FlagSettings) : Flags := settings.foldl set f

/-- A set of characters, closed under case if case is ignored. -/
def close (f : Flags) (s : CharSet) : CharSet :=
  if f.ignoreCase then (if f.unicode then .folded s else .asciiFolded s) else s

/-- A set of characters or, if negated, its complement, which there is only where classes are those
of all scripts. -/
def negate? (f : Flags) (negated : Bool) (s : CharSet) : Option CharSet :=
  if negated then (if f.unicode then some (.complement s) else none) else some s

/-- A character that may stand in a class. -/
def classChar? (f : Flags) (l : Literal) : Option Char :=
  if f.unicode || l.char.toNat < 0x80 then some l.char else none

end Flags

/-! ### Classes -/

/-- The characters of a class with a letter of its own. -/
def ShortClass.set (c : ShortClass) (unicode : Bool) : CharSet :=
  match c with
  | digit => if unicode then .digits else .asciiDigits
  | blank => if unicode then .blanks else .asciiBlanks
  | word => if unicode then .wordCharacters else .asciiWordCharacters

/-- What an operation makes of two sets. -/
def SetOperation.apply : SetOperation → CharSet → CharSet → CharSet
  | inter, a, b => .inter a b
  | diff, a, b => .diff a b
  | symmDiff, a, b => .symmDiff a b

mutual

/-- The characters of a class.  Case is ignored before anything is negated, and on both sides of an
operation. -/
def ClassPhrase.set? (f : Flags) : ClassPhrase → Option CharSet
  | .nothing => some .empty
  | .char l => (f.classChar? l).map .single
  | .range first last => do pure (.range (← f.classChar? first) (← f.classChar? last))
  | .ascii s negated => f.negate? negated (f.close s)
  | .short c negated => f.negate? negated (c.set f.unicode)
  | .property q negated =>
    if f.unicode then q.set?.bind fun s => f.negate? negated (f.close s) else none
  | .bracket negated inner => (inner.set? f).bind fun s => f.negate? negated (f.close s)
  | .union items => ClassPhrase.unionSet? f .empty items
  | .operate op left right => do
    pure (op.apply (f.close (← left.set? f)) (f.close (← right.set? f)))

/-- The characters of a set and of some classes. -/
def ClassPhrase.unionSet? (f : Flags) (before : CharSet) : List ClassPhrase → Option CharSet
  | [] => some before
  | item :: rest => (item.set? f).bind fun s => ClassPhrase.unionSet? f (.union before s) rest

end

/-! ### Phrases -/

/-- The anchor that a sign means. -/
def AnchorSign.anchor (f : Flags) : AnchorSign → Anchor
  | caret => if f.multiLine then .lineStart f.crlf else .textStart
  | dollar => if f.multiLine then .lineEnd f.crlf else .textEnd
  | textStart => .textStart
  | textEnd => .textEnd
  | wordBoundary => .wordBoundary (!f.unicode)
  | noWordBoundary => .noWordBoundary (!f.unicode)
  | wordStart => .wordStart (!f.unicode)
  | wordEnd => .wordEnd (!f.unicode)
  | wordStartHalf => .wordStartHalf (!f.unicode)
  | wordEndHalf => .wordEndHalf (!f.unicode)

/-- What the point matches; there is one only where classes are those of all scripts. -/
def dotSet? (f : Flags) : Option CharSet :=
  if !f.unicode then none
  else if f.dotAll then some .any
  else if f.crlf then some (.complement (.union (.single '\n') (.single '\r')))
  else some (.complement (.single '\n'))

/-- What a character matches.  One that is written as a byte has to be of ASCII where the classes
are. -/
def charSet? (f : Flags) (l : Literal) : Option CharSet :=
  if f.unicode then some (f.close (.single l.char))
  else if l.char.toNat < 0x80 then some (f.close (.single l.char))
  else if l.asByte && l.char.toNat < 0x100 then none
  else some (.single l.char)

mutual

/-- The pattern that a phrase means, and the flags after it. -/
def Phrase.pattern? (f : Flags) : Phrase → Option (Pattern × Flags)
  | .empty => some (.empty, f)
  | .flags settings => some (.empty, f.after settings)
  | .char l => (charSet? f l).map fun s => (.one s, f)
  | .dot => (dotSet? f).map fun s => (.one s, f)
  | .anchor a => some (.anchor (a.anchor f), f)
  | .oneOf c => (c.set? f).map fun s => (.one s, f)
  | .repeated p least most => (p.pattern? f).map fun (q, f) => (.rep q least most, f)
  | .group captures settings p =>
    (p.pattern? (f.after settings)).map fun (q, _) => (if captures then .capture q else q, f)
  | .row ps => Phrase.rowPattern? f ps
  | .choice ps => Phrase.choicePattern? f ps

/-- The pattern that some phrases in a row mean, and the flags after them. -/
def Phrase.rowPattern? (f : Flags) : List Phrase → Option (Pattern × Flags)
  | [] => some (.empty, f)
  | p :: rest => do
    let (q, f) ← p.pattern? f
    let (qs, f) ← Phrase.rowPattern? f rest
    pure (q.andThen qs, f)

/-- The pattern that a choice between phrases means, and the flags after the last of them. -/
def Phrase.choicePattern? (f : Flags) : List Phrase → Option (Pattern × Flags)
  | [] => none
  | [p] => p.pattern? f
  | p :: rest => do
    let (q, f) ← p.pattern? f
    let (qs, f) ← Phrase.choicePattern? f rest
    pure (q.orElse qs, f)

end

end JsonExpr.Regex
