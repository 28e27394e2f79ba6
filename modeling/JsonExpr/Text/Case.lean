import JsonExpr.Text.CaseTable

/-!
# Upper and lower case

Case mappings of characters may give several characters, and one mapping of a text looks at the
neighbours: a capital sigma at the end of a word has a lower case of its own.

Main definitions:

* `JsonExpr.Text.lowerChar`, `JsonExpr.Text.upperChar` — full mappings of a character;
* `JsonExpr.Text.lower` — a text in lower case;
* `JsonExpr.Text.foldChar`, `JsonExpr.Text.foldMates` — simple case folding, and the characters
  that fold alike.
-/

set_option autoImplicit false

namespace JsonExpr.Text

namespace CaseRun

/-- Whether the run maps the code point `n`. -/
def covers (r : CaseRun) (n : Nat) : Bool :=
  r.first ≤ n && n ≤ r.last && (n - r.first) % r.step == 0

/-- The image of a code point the run maps. -/
def image (r : CaseRun) (n : Nat) : Nat := ((n : Int) + r.delta).toNat

end CaseRun

/-- The image of a character under a list of runs; a character outside the runs is its own image. -/
def mapByRuns (runs : List CaseRun) (c : Char) : Char :=
  match runs.find? fun r => r.covers c.toNat with
  | some r => Char.ofNat (r.image c.toNat)
  | none => c

/-- The image of a character under a table of long mappings and a list of runs. -/
def mapByTables (long : List (Nat × List Nat)) (runs : List CaseRun) (c : Char) : List Char :=
  match long.lookup c.toNat with
  | some image => image.map Char.ofNat
  | none => [mapByRuns runs c]

/-- The lower case of a character. -/
def lowerChar (c : Char) : List Char := mapByTables CaseTable.toLowerLong CaseTable.toLower c

/-- The upper case of a character. -/
def upperChar (c : Char) : List Char := mapByTables CaseTable.toUpperLong CaseTable.toUpper c

/-! ### Texts -/

/-- Whether the first character that is not case-ignorable is cased. -/
def startsCased (text : List Char) : Bool :=
  match text.dropWhile fun c => CaseTable.caseIgnorable.has c with
  | [] => false
  | c :: _ => CaseTable.cased.has c

/-- The capital letter whose lower case depends on its place in the word. -/
def capitalSigma : Char := 'Σ'

/-- The lower case of `c` between the text `before` it, read backwards, and the text `after` it. -/
def lowerIn (before : List Char) (c : Char) (after : List Char) : List Char :=
  if c = capitalSigma then
    if startsCased before && !startsCased after then ['ς'] else ['σ']
  else lowerChar c

/-- A text in lower case. -/
def lower (text : List Char) : List Char := go [] text
where
  /-- The rest of the text, after the text `before`, read backwards. -/
  go (before : List Char) : List Char → List Char
    | [] => []
    | c :: rest => lowerIn before c rest ++ go (c :: before) rest

/-- A string in lower case. -/
def lowerString (s : String) : String := String.ofList (lower s.toList)

/-! ### Folding -/

/-- The simple case folding of a character. -/
def foldChar (c : Char) : Char := mapByRuns CaseTable.fold c

/-- The characters that fold to the same character as `c`, itself among them. -/
def foldMates (c : Char) : List Char :=
  let target := foldChar c
  let sources := CaseTable.fold.filterMap fun r =>
    let n := ((target.toNat : Int) - r.delta).toNat
    if r.covers n && r.image n == target.toNat then some (Char.ofNat n) else none
  c :: target :: sources

end JsonExpr.Text
