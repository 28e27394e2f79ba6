import JsonExpr.Dict
import JsonExpr.Json.Number

/-!
# JSON values

The one dynamic type of this library: expressions, data, responses and results are all JSON values.

Main definitions:

* `JsonExpr.Json` — the values;
* `JsonExpr.Json.asString?` and its companions — a value seen as one kind;
* `JsonExpr.Json.kindName` — the name of a value's kind;
* `JsonExpr.Json.equalBy` — equality up to key order, given how numbers compare;
* `JsonExpr.Json.WellFormed` — no object in the value has a key twice.
-/

set_option autoImplicit false

namespace JsonExpr

/-- A JSON value.  An object keeps its keys in insertion order. -/
inductive Json where
  /-- The value `null`. -/
  | null
  /-- A truth value. -/
  | bool (value : Bool)
  /-- A number. -/
  | number (value : Number)
  /-- A string. -/
  | string (value : String)
  /-- An array. -/
  | array (items : List Json)
  /-- An object, as its entries in order. -/
  | object (fields : List (String × Json))

namespace Json

instance : Inhabited Json := ⟨null⟩

/-! ### Building values -/

/-- The integer `n` as a value, for an integer that fits. -/
def int (n : Int) (fits : FitsWord n := by decide) : Json := number (.int n fits)

/-- A natural number as a value; a number of more than 64 bits, which no list here is long enough to
reach, becomes a double. -/
def ofNat (n : Nat) : Json :=
  match Number.ofInt? n with
  | some i => number i
  | none => match Number.ofFloat? (Float.ofNat n) with
    | some f => number f
    | none => null

/-- A double as a value; one that is not finite has no JSON form and becomes `null`. -/
def ofFloat (f : Float) : Json :=
  match Number.ofFloat? f with
  | some n => number n
  | none => null

/-- An optional value, with `null` for none. -/
def ofOption : Option Json → Json
  | some v => v
  | none => null

/-! ### Looking at values -/

/-- The string a value is. -/
def asString? : Json → Option String
  | string s => some s
  | _ => none

/-- The truth value a value is. -/
def asBool? : Json → Option Bool
  | bool b => some b
  | _ => none

/-- The number a value is. -/
def asNumber? : Json → Option Number
  | number n => some n
  | _ => none

/-- The elements of the array a value is. -/
def asArray? : Json → Option (List Json)
  | array items => some items
  | _ => none

/-- The entries of the object a value is. -/
def asObject? : Json → Option (Dict Json)
  | object fields => some fields
  | _ => none

/-- Whether a value is `null`. -/
def isNull : Json → Bool
  | null => true
  | _ => false

/-- Whether a value is a string. -/
def isString (v : Json) : Bool := v.asString?.isSome

/-- Whether a value is an array. -/
def isArray (v : Json) : Bool := v.asArray?.isSome

/-- Whether a value is an object. -/
def isObject (v : Json) : Bool := v.asObject?.isSome

/-- The value at a key of an object. -/
def field? (v : Json) (key : String) : Option Json :=
  match v with
  | object fields => Dict.get? fields key
  | _ => none

/-- The name of a value's kind. -/
def kindName : Json → String
  | null => "null"
  | bool _ => "boolean"
  | number _ => "number"
  | string _ => "string"
  | array _ => "array"
  | object _ => "object"

/-! ### Equality up to key order -/

mutual

/-- Whether two values are equal when numbers are compared by `num` and key order is ignored. -/
def equalBy (num : Number → Number → Bool) : Json → Json → Bool
  | null, null => true
  | bool a, bool b => a == b
  | number a, number b => num a b
  | string a, string b => a == b
  | array a, array b => equalItemsBy num a b
  | object a, object b => a.length == b.length && equalFieldsBy num a b
  | _, _ => false

/-- Whether two lists of values are equal element by element. -/
def equalItemsBy (num : Number → Number → Bool) : List Json → List Json → Bool
  | [], [] => true
  | a :: as, b :: bs => equalBy num a b && equalItemsBy num as bs
  | _, _ => false

/-- Whether each of the given entries has an equal value at its key in `b`. -/
def equalFieldsBy (num : Number → Number → Bool) : List (String × Json) → Dict Json → Bool
  | [], _ => true
  | (k, v) :: rest, b =>
    (match Dict.get? b k with
      | some w => equalBy num v w
      | none => false) && equalFieldsBy num rest b

end

/-- Equality up to key order, in which an integer and a double are different. -/
def same (a b : Json) : Bool := equalBy Number.same a b

/-- Equality up to key order, in which numbers are compared by value. -/
def sameValue (a b : Json) : Bool := equalBy Number.sameValue a b

/-! ### Well-formed values -/

mutual

/-- No object in the value has a key twice. -/
def WellFormed : Json → Prop
  | array items => WellFormedItems items
  | object fields => Dict.KeysNodup fields ∧ WellFormedFields fields
  | _ => True

/-- Every value of the list is well formed. -/
def WellFormedItems : List Json → Prop
  | [] => True
  | v :: rest => WellFormed v ∧ WellFormedItems rest

/-- Every value of the entries is well formed. -/
def WellFormedFields : List (String × Json) → Prop
  | [] => True
  | (_, v) :: rest => WellFormed v ∧ WellFormedFields rest

end

end Json

end JsonExpr
