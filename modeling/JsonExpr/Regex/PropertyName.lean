import JsonExpr.Regex.Break
import JsonExpr.Text.AgeTable

/-!
# Sets by the name of a property

A property is looked up by a name, or by a name and a value, in any spelling: case, separators and
characters outside ASCII do not count, nor does `is` in front.

Main definitions:

* `JsonExpr.Regex.propertyKey` — the spelling under which a name is looked up;
* `JsonExpr.Regex.PropertyQuery.set?` — the set that a property names.
-/

set_option autoImplicit false

namespace JsonExpr.Regex

/-- A property as a pattern names it. -/
inductive PropertyQuery where
  /-- A property or a value of the general category or of the script, by its name. -/
  | named (name : List Char)
  /-- A property with a value. -/
  | valued (name value : List Char)
  deriving DecidableEq, Repr

/-- The spelling under which a name is looked up: lower case, ASCII alone, without separators and
without `is` in front.  One property would lose what sets it apart from the category `c`. -/
def propertyKey (name : List Char) : String :=
  let isForm := (name.take 2).map Char.toLower == ['i', 's']
  let kept := (if isForm then name.drop 2 else name).filter fun c =>
    c.toNat < 0x80 && c != ' ' && c != '_' && c != '-'
  if isForm && kept.map Char.toLower == ['c'] then "isc"
  else String.ofList (kept.map Char.toLower)

namespace CharSet

/-- The script with a name. -/
def script? (name : String) : Option Text.Script :=
  Text.ScriptTable.all.find? fun s => s.names.contains name

/-- The characters that belong to a script. -/
def ofScript? (name : String) : Option CharSet := (script? name).map fun s => bounded s.own

/-- The characters that are used in a script. -/
def ofScriptExtension? (name : String) : Option CharSet :=
  (script? name).map fun s => symmDiff (bounded s.own) (bounded s.differing)

/-- The names of a version: its number, and a short form. -/
def versionNames (version : Nat × Nat) : List String :=
  [toString version.1 ++ "." ++ toString version.2,
    "v" ++ toString version.1 ++ toString version.2]

/-- The characters that were assigned in a version or before. -/
def ofAge? (name : String) : Option CharSet := go empty Text.AgeTable.all
where
  /-- The same, after versions that assigned the characters `before`. -/
  go (before : CharSet) : List ((Nat × Nat) × Text.Boundaries) → Option CharSet
    | [] => none
    | (version, bounds) :: rest =>
      let now := union before (bounded bounds)
      if (versionNames version).contains name then some now else go now rest

end CharSet

open CharSet in
/-- The set that a property names, if there is one. -/
def PropertyQuery.set? : PropertyQuery → Option CharSet
  | named name =>
    let key := propertyKey name
    (ofBinaryProperty? key).or ((ofCategory? key).or (ofScript? key))
  | valued name value =>
    let value := propertyKey value
    match propertyKey name with
    | "gc" | "generalcategory" => ofCategory? value
    | "sc" | "script" => ofScript? value
    | "scx" | "scriptextensions" => ofScriptExtension? value
    | "age" => ofAge? value
    | "gcb" | "graphemeclusterbreak" => ofClusterClass? value
    | "wb" | "wordbreak" => ofWordClass? value
    | "sb" | "sentencebreak" => ofSentenceClass? value
    | _ => none

end JsonExpr.Regex
