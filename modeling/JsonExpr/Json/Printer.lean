import JsonExpr.Json.Basic
import JsonExpr.Text.Pieces

/-!
# JSON text

Values are written compactly: no white space, keys in order, and in strings only what has to be
escaped is escaped.

Main definitions:

* `JsonExpr.Json.escape` — one character inside a string;
* `JsonExpr.Json.quote` — a string with its quotes;
* `JsonExpr.Json.render`, `JsonExpr.Json.compact` — a value as text.
-/

set_option autoImplicit false

namespace JsonExpr.Json

/-! ### Strings -/

/-- The hexadecimal digit of a number below sixteen. -/
def hexDigit (n : Nat) : Char := Nat.digitChar n

/-- A character inside a string: quotes, backslashes and control characters are escaped, the common
ones by a letter, the others by their number. -/
def escape (c : Char) : List Char :=
  match c with
  | '"' => ['\\', '"']
  | '\\' => ['\\', '\\']
  | '\n' => ['\\', 'n']
  | '\r' => ['\\', 'r']
  | '\t' => ['\\', 't']
  | '\x08' => ['\\', 'b']
  | '\x0c' => ['\\', 'f']
  | c =>
    if c.toNat < 0x20 then
      ['\\', 'u', '0', '0', hexDigit (c.toNat / 16), hexDigit (c.toNat % 16)]
    else [c]

/-- A string with its quotes. -/
def quote (s : String) : List Char := '"' :: s.toList.flatMap escape ++ ['"']

/-! ### Values -/

mutual

/-- The compact text of a value. -/
def render : Json → List Char
  | null => ['n', 'u', 'l', 'l']
  | bool true => ['t', 'r', 'u', 'e']
  | bool false => ['f', 'a', 'l', 's', 'e']
  | number n => n.write.toList
  | string s => quote s
  | array items => '[' :: (Text.joinWith [','] (renderItems items) ++ [']'])
  | object fields => '{' :: (Text.joinWith [','] (renderFields fields) ++ ['}'])

/-- The texts of the elements of an array. -/
def renderItems : List Json → List (List Char)
  | [] => []
  | v :: rest => render v :: renderItems rest

/-- The texts of the entries of an object. -/
def renderFields : List (String × Json) → List (List Char)
  | [] => []
  | (k, v) :: rest => (quote k ++ ':' :: render v) :: renderFields rest

end

/-- The compact text of a value, as a string. -/
def compact (v : Json) : String := String.ofList (render v)

end JsonExpr.Json
