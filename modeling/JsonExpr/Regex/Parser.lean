import JsonExpr.Json.Parser
import JsonExpr.Regex.Phrase
import JsonExpr.Text.Blank

/-!
# Reading patterns

The syntax of patterns: literals, classes in brackets with set operations, escapes, anchors, groups
with flags, alternation and repetition.  There are no back references and nothing that looks ahead
or behind.

While the flag for it is set, blanks are passed over between the signs of the syntax, inside braces
and between the digits of numbers too, and so are comments, which run from a number sign to the end
of the line.

Main definitions:

* `JsonExpr.Regex.skipIgnored` — passes over blanks and comments;
* `JsonExpr.Regex.readEscape?`, `JsonExpr.Regex.readClass?`, `JsonExpr.Regex.readGroup?` — parts of
  the syntax;
* `JsonExpr.Regex.Phrase.parse?` — the phrase that a text denotes.
-/

set_option autoImplicit false

namespace JsonExpr.Regex

/-! ### Blanks and comments -/

/-- Passes over blanks and comments, if they are to be ignored. -/
def skipIgnored (extended : Bool) (text : List Char) : List Char :=
  if extended then go false text else text
where
  /-- The rest of the text, inside a comment or not. -/
  go : Bool → List Char → List Char
    | _, [] => []
    | true, c :: rest => go (c != '\n') rest
    | false, c :: rest =>
      if Text.isBlank c then go false rest else if c == '#' then go true rest else c :: rest

/-- What is left after blanks and comments is no longer than the text. -/
theorem length_skipIgnored_le (extended : Bool) (text : List Char) :
    (skipIgnored extended text).length ≤ text.length := by
  have h : ∀ (text : List Char) (inside : Bool),
      (skipIgnored.go inside text).length ≤ text.length := by
    intro text
    induction text with
    | nil => intro inside; cases inside <;> simp [skipIgnored.go]
    | cons c rest ih =>
      intro inside
      have h1 := ih true
      have h2 := ih false
      have h3 := ih (c != '\n')
      cases inside with
      | true => simp only [skipIgnored.go, List.length_cons]; omega
      | false =>
        simp only [skipIgnored.go, List.length_cons]
        split
        · omega
        · split
          · omega
          · simp
  unfold skipIgnored
  split
  · exact h text false
  · exact Nat.le_refl _

/-- The longest start of a text whose characters satisfy `p`, and the rest; what is ignored is
passed over behind every character. -/
def readWhile (extended : Bool) (p : Char → Bool) : List Char → List Char × List Char
  | [] => ([], [])
  | c :: rest =>
    if p c then
      let (cs, rest) := readWhile extended p (skipIgnored extended rest)
      (c :: cs, rest)
    else ([], c :: rest)
termination_by text => text.length
decreasing_by
  have := length_skipIgnored_le extended rest
  simp only [List.length_cons]
  omega

/-- The next `n` characters of a text and the rest; what is ignored is passed over behind every
character. -/
def readExactly? (extended : Bool) : Nat → List Char → Option (List Char × List Char)
  | 0, text => some ([], text)
  | _ + 1, [] => none
  | n + 1, c :: rest =>
    (readExactly? extended n (skipIgnored extended rest)).map fun (cs, rest) => (c :: cs, rest)

/-- Reads what stands in braces after the opening one, up to the closing one. -/
def readBraced? (extended : Bool) (text : List Char) : Option (List Char × List Char) :=
  match readWhile extended (· != '\x7d') (skipIgnored extended text) with
  | (inner, '\x7d' :: rest) => some (inner, rest)
  | _ => none

/-! ### Flags -/

/-- Reads the flags of a group up to its colon or closing parenthesis, which is answered too.
`seen` are the settings read, latest first, `negated` says whether a minus sign was read, and
`dangling` whether it was read last. -/
def readFlags? (seen : FlagSettings) (negated dangling : Bool) :
    List Char → Option (FlagSettings × Char × List Char)
  | [] => none
  | c :: rest =>
    if c = ':' ∨ c = ')' then
      if dangling || (c = ')' && seen.isEmpty && !negated) then none
      else some (seen.reverse, c, rest)
    else if c = '-' then
      if negated then none else readFlags? seen true true rest
    else match Flag.ofLetter? c with
      | none => none
      | some flag =>
        if seen.any fun s => s.1 == flag then none
        else readFlags? ((flag, !negated) :: seen) negated false rest

/-- Whether blanks and comments are ignored after a setting of flags. -/
def extendedAfter (extended : Bool) (settings : FlagSettings) : Bool :=
  (settings.lookup .extended).getD extended

/-! ### Numbers -/

/-- Reads a decimal number with blanks around it. -/
def readCount? (extended : Bool) (text : List Char) : Option Nat × List Char :=
  let (digits, rest) := readWhile extended Decimal.isDigit (text.dropWhile Text.isBlank)
  let n := Decimal.ofDigits digits
  (if digits.isEmpty || n ≥ Nat.pow 2 32 then none else some n, rest.dropWhile Text.isBlank)

/-- The number of a row of hexadecimal digits. -/
def hexNumber? (digits : List Char) : Option Nat :=
  digits.foldl (fun n c => do pure (16 * (← n) + (← Json.hexValue? c))) (some 0)

/-- The character of a row of hexadecimal digits. -/
def hexChar? (digits : List Char) : Option Char :=
  if digits.isEmpty then none
  else (hexNumber? digits).bind fun n => if n.isValidChar then some (Char.ofNat n) else none

/-- Reads a character given by its number: `n` digits, or any number of them in braces.  Two digits
without braces are a byte. -/
def readHexChar? (extended : Bool) (n : Nat) (text : List Char) : Option (Literal × List Char) :=
  match skipIgnored extended text with
  | '\x7b' :: rest =>
    (readBraced? extended rest).bind fun (digits, rest) =>
      (hexChar? digits).map fun c => (⟨c, false⟩, rest)
  | text =>
    (readExactly? extended n text).bind fun (digits, rest) =>
      (hexChar? digits).map fun c => (⟨c, n == 2⟩, rest)

/-! ### Escapes -/

/-- What an escape denotes. -/
inductive Escape where
  /-- A character. -/
  | char (l : Literal)
  /-- A set of characters. -/
  | set (c : ClassPhrase)
  /-- An anchor. -/
  | anchor (a : AnchorSign)

/-- Whether a character of ASCII may be escaped to stand for itself. -/
def mayBeEscaped (c : Char) : Bool :=
  c.toNat < 0x80 && !c.isAlphanum && c != '<' && c != '>'

/-- What stands in front of a sign and behind it, where it stands first. -/
def cutAt? (sign : List Char) : List Char → Option (List Char × List Char)
  | [] => if sign.isEmpty then some ([], []) else none
  | c :: rest =>
    if sign.isPrefixOf (c :: rest) then some ([], (c :: rest).drop sign.length)
    else (cutAt? sign rest).map fun (before, behind) => (c :: before, behind)

/-- The property that stands in braces: a name, or a name and a value with a sign between them. -/
def propertyOfText (negated : Bool) (text : List Char) : ClassPhrase :=
  match cutAt? ['!', '='] text with
  | some (name, value) => .property (.valued name value) (!negated)
  | none =>
    match (cutAt? [':'] text).or (cutAt? ['='] text) with
    | some (name, value) => .property (.valued name value) negated
    | none => .property (.named text) negated

/-- Reads a property after `p`: one letter, or what stands in braces. -/
def readProperty? (extended negated : Bool) (text : List Char) :
    Option (ClassPhrase × List Char) :=
  match skipIgnored extended text with
  | '\x7b' :: rest =>
    (readBraced? extended rest).map fun (inner, rest) => (propertyOfText negated inner, rest)
  | c :: rest => if c = '\\' then none else some (.property (.named [c]) negated, rest)
  | [] => none

/-- Whether a character may stand in the name of a one-sided word boundary. -/
def isBoundaryNamePart (c : Char) : Bool := c.isAlpha || c == '-'

/-- The word boundary with a name. -/
def boundaryOfName? : String → Option AnchorSign
  | "start" => some .wordStart
  | "end" => some .wordEnd
  | "start-half" => some .wordStartHalf
  | "end-half" => some .wordEndHalf
  | _ => none

/-- Reads the braces that make a word boundary one-sided; other braces are left alone. -/
def readBoundary? (extended : Bool) (text : List Char) : Option (AnchorSign × List Char) :=
  match text with
  | '\x7b' :: rest =>
    match skipIgnored extended rest with
    | [] => none
    | c :: rest =>
      if !isBoundaryNamePart c then some (.wordBoundary, text)
      else
        match readWhile extended isBoundaryNamePart (c :: rest) with
        | (name, '\x7d' :: rest) => (boundaryOfName? (String.ofList name)).map (·, rest)
        | _ => none
  | _ => some (.wordBoundary, text)

/-- Reads what stands after a backslash. -/
def readEscape? (extended : Bool) : List Char → Option (Escape × List Char)
  | [] => none
  | c :: rest =>
    let char (c : Char) := some (Escape.char ⟨c, false⟩, rest)
    let short (c : ShortClass) (negated : Bool) := some (Escape.set (.short c negated), rest)
    let anchor (a : AnchorSign) := some (Escape.anchor a, rest)
    match c with
    | 'x' => (readHexChar? extended 2 rest).map fun (l, rest) => (.char l, rest)
    | 'u' => (readHexChar? extended 4 rest).map fun (l, rest) => (.char l, rest)
    | 'U' => (readHexChar? extended 8 rest).map fun (l, rest) => (.char l, rest)
    | 'p' => (readProperty? extended false rest).map fun (c, rest) => (.set c, rest)
    | 'P' => (readProperty? extended true rest).map fun (c, rest) => (.set c, rest)
    | 'd' => short .digit false
    | 'D' => short .digit true
    | 's' => short .blank false
    | 'S' => short .blank true
    | 'w' => short .word false
    | 'W' => short .word true
    | 'a' => char '\x07'
    | 'f' => char '\x0c'
    | 't' => char '\t'
    | 'n' => char '\n'
    | 'r' => char '\r'
    | 'v' => char '\x0b'
    | 'A' => anchor .textStart
    | 'z' => anchor .textEnd
    | 'b' => (readBoundary? extended rest).map fun (a, rest) => (.anchor a, rest)
    | 'B' => anchor .noWordBoundary
    | '<' => anchor .wordStart
    | '>' => anchor .wordEnd
    | c => if mayBeEscaped c then char c else none

/-! ### Classes in brackets -/

/-- A class read so far: whether it is negated, an operation waiting for its right side, and the
items read since, latest first. -/
structure OpenClass where
  /-- Whether the class is negated. -/
  negated : Bool
  /-- The left side and the operation, if one was read. -/
  pending : Option (ClassPhrase × SetOperation)
  /-- The items read since, latest first. -/
  items : List ClassPhrase

namespace OpenClass

/-- What was read so far. -/
def phrase (c : OpenClass) : ClassPhrase :=
  let right := ClassPhrase.ofItems c.items.reverse
  match c.pending with
  | none => right
  | some (left, op) => .operate op left right

/-- One item more. -/
def add (c : OpenClass) (item : ClassPhrase) : OpenClass := { c with items := item :: c.items }

/-- The right side of an operation begins. -/
def operate (c : OpenClass) (op : SetOperation) : OpenClass :=
  { c with pending := some (c.phrase, op), items := [] }

/-- The class is closed. -/
def close (c : OpenClass) : ClassPhrase := .bracket c.negated c.phrase

end OpenClass

/-- Reads an ASCII class such as `[:alpha:]` after its opening bracket. -/
def readAsciiClass? : List Char → Option (ClassPhrase × List Char)
  | ':' :: rest =>
    let (negated, rest) := match rest with
      | '^' :: rest => (true, rest)
      | rest => (false, rest)
    let name := rest.takeWhile (· != ':')
    match rest.dropWhile (· != ':') with
    | ':' :: ']' :: rest =>
      (CharSet.ofAsciiName? (String.ofList name)).map fun s => (.ascii s negated, rest)
    | _ => none
  | _ => none

/-- Reads one item of a class: a character, plain or escaped, or a set. -/
def readClassItem? (extended : Bool) : List Char → Option (Escape × List Char)
  | [] => none
  | '\\' :: rest => readEscape? extended rest
  | c :: rest => some (.char ⟨c, false⟩, rest)

/-- The character that seems to come after a hyphen: blanks and the sign of a comment are passed
over, if they are ignored, but not the text of the comment. -/
def peekBehind? (extended : Bool) (text : List Char) : Option Char :=
  if extended then (go false text).or text.head? else text.head?
where
  /-- The same, inside a comment or not. -/
  go : Bool → List Char → Option Char
    | _, [] => none
    | inside, c :: rest =>
      if Text.isBlank c then go inside rest
      else if !inside && c == '#' then go true rest
      else some c

/-- Reads an item of a class, or a range of characters. -/
def readClassRange? (extended : Bool) (text : List Char) : Option (ClassPhrase × List Char) :=
  match readClassItem? extended text with
  | none => none
  | some (first, rest) =>
    let rest := skipIgnored extended rest
    let second := peekBehind? extended (rest.drop 1)
    if rest.isEmpty then none
    else if rest.head? != some '-' || second == some ']' || second == some '-' then
      match first with
      | .char l => some (.char l, rest)
      | .set c => some (c, rest)
      | .anchor _ => none
    else
      match readClassItem? extended (skipIgnored extended (rest.drop 1)) with
      | none => none
      | some (last, rest) =>
        match first, last with
        | .char a, .char b => if a.char ≤ b.char then some (.range a b, rest) else none
        | _, _ => none

/-- Reads the start of a class after its opening bracket: a negation, hyphens, and a closing bracket
that stands for itself because it is the first character. -/
def readClassStart? (extended : Bool) (text : List Char) : Option (OpenClass × List Char) :=
  let (negated, text) := match skipIgnored extended text with
    | '^' :: rest => (true, skipIgnored extended rest)
    | text => (false, text)
  let (hyphens, text) := readWhile extended (· == '-') text
  let items := hyphens.map fun c => ClassPhrase.char ⟨c, false⟩
  match text with
  | [] => none
  | ']' :: rest =>
    if hyphens.isEmpty then
      let rest := skipIgnored extended rest
      if rest.isEmpty then none else some (⟨negated, none, [.char ⟨']', false⟩]⟩, rest)
    else some (⟨negated, none, items⟩, text)
  | text => some (⟨negated, none, items⟩, text)

/-- Reads the rest of a class.  `outer` are the classes around it, innermost first; the class is
done when the last of them is closed.  `fuel` bounds the characters read. -/
def readClassRest? (extended : Bool) :
    Nat → List OpenClass → OpenClass → List Char → Option (ClassPhrase × List Char)
  | 0, _, _, _ => none
  | fuel + 1, outer, now, text =>
    match skipIgnored extended text with
    | [] => none
    | '[' :: rest =>
      match readAsciiClass? rest with
      | some (c, rest) => readClassRest? extended fuel outer (now.add c) rest
      | none =>
        match readClassStart? extended rest with
        | none => none
        | some (inner, rest) => readClassRest? extended fuel (now :: outer) inner rest
    | ']' :: rest =>
      match outer with
      | [] => some (now.close, rest)
      | around :: outer => readClassRest? extended fuel outer (around.add now.close) rest
    | '&' :: '&' :: rest => readClassRest? extended fuel outer (now.operate .inter) rest
    | '-' :: '-' :: rest => readClassRest? extended fuel outer (now.operate .diff) rest
    | '~' :: '~' :: rest => readClassRest? extended fuel outer (now.operate .symmDiff) rest
    | text =>
      match readClassRange? extended text with
      | none => none
      | some (c, rest) => readClassRest? extended fuel outer (now.add c) rest

/-- Reads a class after its opening bracket. -/
def readClass? (extended : Bool) (text : List Char) : Option (ClassPhrase × List Char) :=
  match readClassStart? extended text with
  | none => none
  | some (start, rest) => readClassRest? extended (text.length + 1) [] start rest

/-! ### Groups and repetition -/

/-- Whether a character may stand in the name of a group. -/
def isGroupNamePart (c : Char) : Bool :=
  c == '_' || c == '.' || c == '[' || c == ']' || Text.isAlphanumeric c

/-- Reads the name of a group and the bracket that closes it. -/
def readGroupName? (text : List Char) : Option (List Char × List Char) :=
  let name := text.takeWhile (· != '>')
  match name, text.dropWhile (· != '>') with
  | c :: more, '>' :: rest =>
    if (c == '_' || Text.isAlphabetic c) && more.all isGroupNamePart then some (name, rest)
    else none
  | _, _ => none

/-- What an opening parenthesis opens. -/
inductive GroupStart where
  /-- A group that captures what it matches, perhaps under a name. -/
  | capture (name : Option (List Char))
  /-- A group with flags for its inside. -/
  | plain (settings : FlagSettings)
  /-- Flags for the rest of the group around it. -/
  | flags (settings : FlagSettings)

/-- Reads what stands after an opening parenthesis and says what it opens. -/
def readGroupStart? (extended : Bool) (text : List Char) : Option (GroupStart × List Char) :=
  match skipIgnored extended text with
  | '?' :: '=' :: _ => none
  | '?' :: '!' :: _ => none
  | '?' :: '<' :: '=' :: _ => none
  | '?' :: '<' :: '!' :: _ => none
  | '?' :: 'P' :: '<' :: rest =>
    (readGroupName? rest).map fun (name, rest) => (.capture (some name), rest)
  | '?' :: '<' :: rest =>
    (readGroupName? rest).map fun (name, rest) => (.capture (some name), rest)
  | '?' :: rest =>
    (readFlags? [] false false rest).map fun (settings, stop, rest) =>
      if stop = ')' then (.flags settings, rest) else (.plain settings, rest)
  | text => some (.capture none, text)

/-- The bounds of a repetition, if they are in order. -/
def orderedBounds? (least most : Nat) : Option (Nat × Option Nat) :=
  if least ≤ most then some (least, some most) else none

/-- Reads the bounds of a repetition after the opening brace, up to the closing one. -/
def readBounds? (extended : Bool) (text : List Char) :
    Option ((Nat × Option Nat) × List Char) :=
  match readCount? extended (skipIgnored extended text) with
  | (none, _) => none
  | (some least, '\x7d' :: rest) => some ((least, some least), rest)
  | (some least, ',' :: rest) =>
    match skipIgnored extended rest with
    | '\x7d' :: rest => some ((least, none), rest)
    | rest =>
      match readCount? extended rest with
      | (some most, '\x7d' :: rest) => (orderedBounds? least most).map (·, rest)
      | _ => none
  | _ => none

/-- Passes over the mark of a lazy repetition. -/
def skipLazyMark : List Char → List Char
  | '?' :: rest => rest
  | text => text

/-! ### Whole patterns -/

/-- What was read of a group: finished alternatives and the phrases of the current one, both latest
first. -/
structure Progress where
  /-- The finished alternatives, latest first. -/
  done : List Phrase
  /-- The phrases of the current alternative, latest first. -/
  parts : List Phrase

namespace Progress

/-- Nothing read yet. -/
def start : Progress := ⟨[], []⟩

/-- One phrase more. -/
def push (g : Progress) (p : Phrase) : Progress := { g with parts := p :: g.parts }

/-- The current alternative. -/
def current (g : Progress) : Phrase := Phrase.ofRow g.parts.reverse

/-- All that was read. -/
def phrase (g : Progress) : Phrase := Phrase.ofChoice (g.current :: g.done).reverse

/-- The next alternative begins. -/
def nextAlternative (g : Progress) : Progress := ⟨g.current :: g.done, []⟩

/-- The latest phrase repeated.  There has to be one, and a setting of flags cannot be repeated. -/
def repeat? (g : Progress) (least : Nat) (most : Option Nat) : Option Progress :=
  match g.parts with
  | [] | .flags _ :: _ => none
  | p :: rest => some { g with parts := .repeated p least most :: rest }

end Progress

/-- What is read of a group: its phrase, the names of groups so far, and the rest of the text, which
is empty or starts with the closing parenthesis. -/
abbrev GroupResult := Phrase × List (List Char) × List Char

/-- Reads a group up to its closing parenthesis or the end.  Every step reads at least one
character, and `fuel` bounds the steps. -/
def readGroup? : Nat → Bool → List (List Char) → Progress → List Char → Option GroupResult
  | 0, _, _, _, _ => none
  | fuel + 1, extended, names, g, text =>
    let repeated (least : Nat) (most : Option Nat) (rest : List Char) : Option GroupResult :=
      match g.repeat? least most with
      | none => none
      | some g => readGroup? fuel extended names g (skipLazyMark rest)
    match skipIgnored extended text with
    | [] => some (g.phrase, names, [])
    | ')' :: rest => some (g.phrase, names, ')' :: rest)
    | '|' :: rest => readGroup? fuel extended names g.nextAlternative rest
    | '*' :: rest => repeated 0 none rest
    | '+' :: rest => repeated 1 none rest
    | '?' :: rest => repeated 0 (some 1) rest
    | '\x7b' :: rest =>
      match readBounds? extended rest with
      | none => none
      | some ((least, most), rest) => repeated least most (skipIgnored extended rest)
    | '(' :: rest =>
      match readGroupStart? extended rest with
      | none => none
      | some (.flags settings, rest) =>
        readGroup? fuel (extendedAfter extended settings) names (g.push (.flags settings)) rest
      | some (.plain settings, rest) =>
        match readGroup? fuel (extendedAfter extended settings) names .start rest with
        | some (p, names, ')' :: rest) =>
          readGroup? fuel extended names (g.push (.group false settings p)) rest
        | _ => none
      | some (.capture name, rest) =>
        if name.any names.contains then none
        else
          match readGroup? fuel extended (name.toList ++ names) .start rest with
          | some (p, names, ')' :: rest) =>
            readGroup? fuel extended names (g.push (.group true [] p)) rest
          | _ => none
    | '[' :: rest =>
      match readClass? extended rest with
      | none => none
      | some (c, rest) => readGroup? fuel extended names (g.push (.oneOf c)) rest
    | '.' :: rest => readGroup? fuel extended names (g.push .dot) rest
    | '^' :: rest => readGroup? fuel extended names (g.push (.anchor .caret)) rest
    | '$' :: rest => readGroup? fuel extended names (g.push (.anchor .dollar)) rest
    | '\\' :: rest =>
      match readEscape? extended rest with
      | none => none
      | some (.char l, rest) => readGroup? fuel extended names (g.push (.char l)) rest
      | some (.set c, rest) => readGroup? fuel extended names (g.push (.oneOf c)) rest
      | some (.anchor a, rest) => readGroup? fuel extended names (g.push (.anchor a)) rest
    | c :: rest => readGroup? fuel extended names (g.push (.char ⟨c, false⟩)) rest

/-- How deep phrases may be nested. -/
def maxDepth : Nat := 250

/-- The phrase that a text denotes, if it is well formed and not nested too deep. -/
def Phrase.parse? (source : String) : Option Phrase :=
  let text := source.toList
  match readGroup? (text.length + 1) false [] .start text with
  | some (p, _, []) => if p.depth ≤ maxDepth then some p else none
  | _ => none

end JsonExpr.Regex
