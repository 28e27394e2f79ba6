import JsonExpr.Json.Basic
import JsonExpr.Text.Pieces

/-!
# Expected types

What a parameter accepts: a basic kind, one of some strings, or any of several types.  A type has a
JSON form, the one that metadata shows, and a text for messages.

Main definitions:

* `JsonExpr.BasicType`, `JsonExpr.ExpectedType` — the types;
* `JsonExpr.ExpectedType.accepts` — whether a value, which may be absent, is of a type;
* `JsonExpr.ExpectedType.orUndefined` — the type that absence satisfies too;
* `JsonExpr.ExpectedType.toJson`, `JsonExpr.ExpectedType.ofJson?` — the JSON form;
* `JsonExpr.ExpectedType.text` — the text for messages.
-/

set_option autoImplicit false

namespace JsonExpr

/-- A basic kind of value. -/
inductive BasicType where
  /-- Anything that is there. -/
  | any
  | string
  | number
  | boolean
  | array
  | object
  | null
  /-- Only a value that is absent. -/
  | undefined
  deriving DecidableEq, Repr

namespace BasicType

/-- The name of a kind. -/
def name : BasicType → String
  | any => "any"
  | string => "string"
  | number => "number"
  | boolean => "boolean"
  | array => "array"
  | object => "object"
  | null => "null"
  | undefined => "undefined"

/-- The kind of a name. -/
def ofName? : String → Option BasicType
  | "any" => some any
  | "string" => some string
  | "number" => some number
  | "boolean" => some boolean
  | "array" => some array
  | "object" => some object
  | "null" => some null
  | "undefined" => some undefined
  | _ => none

/-- Whether a value, which may be absent, is of this kind. -/
def accepts : BasicType → Option Json → Bool
  | any, some _ => true
  | undefined, none => true
  | string, some (.string _) => true
  | number, some (.number _) => true
  | boolean, some (.bool _) => true
  | array, some (.array _) => true
  | object, some (.object _) => true
  | null, some .null => true
  | _, _ => false

end BasicType

/-- The declared type of a parameter. -/
inductive ExpectedType where
  /-- A basic kind. -/
  | basic (kind : BasicType)
  /-- One of the given strings. -/
  | literal (members : List String)
  /-- Any of the given types. -/
  | union (members : List ExpectedType)
  deriving Repr

namespace ExpectedType

/-- Any of the given basic kinds. -/
def oneOf (kinds : List BasicType) : ExpectedType := union (kinds.map basic)

/-! ### Values of a type -/

mutual

/-- Whether a value, which may be absent, is of a type. -/
def accepts (v : Option Json) : ExpectedType → Bool
  | basic kind => kind.accepts v
  | literal members =>
    match v with
    | some (.string s) => members.contains s
    | _ => false
  | union members => acceptsAny v members

/-- Whether a value is of one of the given types. -/
def acceptsAny (v : Option Json) : List ExpectedType → Bool
  | [] => false
  | t :: rest => accepts v t || acceptsAny v rest

end

/-- Whether this is the type of absent values. -/
def isUndefined : ExpectedType → Bool
  | basic .undefined => true
  | _ => false

/-- The type that an absent value satisfies too. -/
def orUndefined : ExpectedType → ExpectedType
  | union members =>
    if members.any isUndefined then union members else union (members ++ [basic .undefined])
  | t => if t.isUndefined then t else union [t, basic .undefined]

/-! ### The JSON form -/

mutual

/-- The JSON form: a name, an object with the literal strings, or an array of types. -/
def toJson : ExpectedType → Json
  | basic kind => .string kind.name
  | literal members => .object [("literal", .array (members.map Json.string))]
  | union members => .array (listToJson members)

/-- The JSON forms of several types. -/
def listToJson : List ExpectedType → List Json
  | [] => []
  | t :: rest => toJson t :: listToJson rest

end

/-- The strings that a list of values consists of. -/
def stringsOf? : List Json → Option (List String)
  | [] => some []
  | .string s :: rest => (stringsOf? rest).map (s :: ·)
  | _ :: _ => none

/-- The type that an object denotes: a basic kind that is its one key, with nothing behind it, or
the strings under `literal`, which may have other keys beside it. -/
def ofFields? : Dict Json → Option ExpectedType
  | [(name, .null)] => (BasicType.ofName? name).map basic
  | fields =>
    match Dict.get? fields "literal" with
    | some (.array items) => (stringsOf? items).map literal
    | _ => none

mutual

/-- The type that a JSON form denotes. -/
def ofJson? : Json → Option ExpectedType
  | .string name => (BasicType.ofName? name).map basic
  | .object fields => ofFields? fields
  | .array items => (listOfJson? items).map union
  | _ => none

/-- The types that several JSON forms denote. -/
def listOfJson? : List Json → Option (List ExpectedType)
  | [] => some []
  | v :: rest =>
    match ofJson? v with
    | none => none
    | some t => (listOfJson? rest).map (t :: ·)

end

/-! ### The text for messages -/

/-- A string in plain quotes, without any escape. -/
def quoted (s : String) : String := "\"" ++ s ++ "\""

mutual

/-- The text of a type. -/
def text : ExpectedType → String
  | basic kind => kind.name
  | literal members => "Literal(" ++ Text.joinStrings ", " (members.map quoted) ++ ")"
  | union members => Text.joinStrings "|" (texts members)

/-- The texts of several types. -/
def texts : List ExpectedType → List String
  | [] => []
  | t :: rest => text t :: texts rest

end

end ExpectedType

end JsonExpr
