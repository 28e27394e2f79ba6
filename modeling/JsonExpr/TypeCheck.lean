import JsonExpr.Json.Printer
import JsonExpr.Schema.Basic
import JsonExpr.Text.Ellipsis

/-!
# Checking operands

Evaluated operands are checked against the types their operator declares.  All failures are reported
together, one line each.

Main definitions:

* `JsonExpr.TypeCheck.Item` — a value, what it is expected to be, and perhaps its name;
* `JsonExpr.TypeCheck.failures` — one line for every item of the wrong type;
* `JsonExpr.TypeCheck.check` — the lines together, if there are any;
* `JsonExpr.Operands` — evaluated operands by name.
-/

set_option autoImplicit false

namespace JsonExpr

namespace TypeCheck

/-- A value to check. -/
structure Item where
  /-- The name of the property, if the value is one. -/
  name : Option String
  /-- The value; `none` when it is absent. -/
  value : Option Json
  /-- The type it should have. -/
  expected : ExpectedType

namespace Item

/-- Whether the value has the expected type. -/
def holds (i : Item) : Bool := i.expected.accepts i.value

/-- Values in messages are cut to about this length. -/
def valueLength : Nat := 50

/-- A value as it appears in a message. -/
def shown (v : Option Json) : String :=
  Text.shortenString valueLength (match v with
    | none => "undefined"
    | some v => v.compact)

/-- The line that reports an item of the wrong type. -/
def line (i : Item) : String :=
  match i.name, i.value with
  | some name, none =>
    "- Missing required property \"" ++ name ++ "\" (type: " ++ i.expected.text ++ ")"
  | some name, v =>
    "- Property \"" ++ name ++ "\" (value: " ++ shown v ++ ") is not of type: " ++ i.expected.text
  | none, v => "- " ++ shown v ++ " is not of type: " ++ i.expected.text

end Item

/-- One line for every item of the wrong type, in order. -/
def failures (items : List Item) : List String :=
  (items.filter fun i => !i.holds).map Item.line

/-- Nothing if every item has the expected type, else the message of all failures. -/
def check (items : List Item) : Except String Unit :=
  match failures items with
  | [] => .ok ()
  | lines => .error (Text.joinStrings "\n" lines)

end TypeCheck

/-- Evaluated operands by name.  A property the node does not have is kept as `none`, so that it
takes part in checks. -/
abbrev Operands := Dict (Option Json)

namespace Operands

/-- The value of an operand, if it is there. -/
def value? (operands : Operands) (name : String) : Option Json := (Dict.get? operands name).join

/-- The string an operand is. -/
def string? (operands : Operands) (name : String) : Option String :=
  (value? operands name).bind Json.asString?

/-- The truth value an operand is. -/
def bool? (operands : Operands) (name : String) : Option Bool :=
  (value? operands name).bind Json.asBool?

/-- The elements of the array an operand is. -/
def array? (operands : Operands) (name : String) : Option (List Json) :=
  (value? operands name).bind Json.asArray?

/-- The entries of the object an operand is. -/
def object? (operands : Operands) (name : String) : Option (Dict Json) :=
  (value? operands name).bind Json.asObject?

/-- What is checked of the operands: each that the schema declares, in order. -/
def checkItems (operands : Operands) (schema : OperatorSchema) : List TypeCheck.Item :=
  (Dict.keys operands).filterMap fun name =>
    (schema.findParam? name).map fun p => ⟨some p.name, value? operands p.name, p.effectiveType⟩

end Operands

end JsonExpr
