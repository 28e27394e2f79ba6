import JsonExpr.Json.Parser
import JsonExpr.Node
import JsonExpr.Operator.Registry
import JsonExpr.Text.Blank

/-!
# Shorthand

Two short spellings stand for whole nodes.  A call string `$plus(1, 2)` stands for the operator node
with those children, and an object with the single key `$plus` for the node with that object's
properties or that array's elements.  The names of fragments work in the same way.  A name that
resolves to neither is left alone, so that names of bindings keep their meaning.

The arguments of a call string are cut at top-level commas.  Each is read as JSON if it is JSON, as
a string in single quotes if it stands in them, and as a plain string otherwise, and may itself be
shorthand.

Main definitions:

* `JsonExpr.Shorthand.call?` — the name and the argument text of a call string;
* `JsonExpr.Shorthand.splitArguments` — the arguments of an argument text;
* `JsonExpr.Shorthand.Names` — the names that shorthand may use;
* `JsonExpr.Shorthand.walk` — shorthand expanded throughout a value, given how strings expand;
* `JsonExpr.Shorthand.preprocess` — shorthand expanded throughout a value.
-/

set_option autoImplicit false

namespace JsonExpr.Shorthand

/-! ### Call strings -/

/-- Whether `c` is a round bracket. -/
def isParenthesis (c : Char) : Bool := c == '(' || c == ')'

/-- The name and the argument text of a call string: a dollar sign, a name without round brackets,
and the arguments up to a closing bracket at the very end. -/
def call? : List Char → Option (List Char × List Char)
  | '$' :: text =>
    let name := text.takeWhile fun c => !isParenthesis c
    match name, text.dropWhile fun c => !isParenthesis c with
    | _ :: _, '(' :: rest =>
      if rest.getLast? = some ')' then some (name, rest.dropLast) else none
    | _, _ => none
  | _ => none

/-! ### Arguments -/

/-- What the characters read so far leave open. -/
structure Nesting where
  /-- The number of open brackets of any shape. -/
  depth : Nat
  /-- The quotation mark of the quoted part, inside one. -/
  quote : Option Char
  /-- Whether the next character of the quoted part is escaped. -/
  escaped : Bool
  deriving DecidableEq, Repr

namespace Nesting

/-- Nothing is open. -/
def none : Nesting := ⟨0, .none, false⟩

/-- Whether a comma here would separate arguments. -/
def isTop (n : Nesting) : Bool := n.quote.isNone && n.depth == 0

/-- What is open after one more character. -/
def next (n : Nesting) (c : Char) : Nesting :=
  match n.quote with
  | some q =>
    if n.escaped then { n with escaped := false }
    else if c = '\\' then { n with escaped := true }
    else if c = q then { n with quote := .none }
    else n
  | .none =>
    if c = '"' ∨ c = '\'' then { n with quote := some c }
    else if c = '(' ∨ c = '[' ∨ c = '\x7b' then { n with depth := n.depth + 1 }
    else if c = ')' ∨ c = ']' ∨ c = '\x7d' then { n with depth := n.depth - 1 }
    else n

end Nesting

/-- The parts of a text between its top-level commas, as they stand. -/
def splitTop (n : Nesting) : List Char → List (List Char)
  | [] => [[]]
  | c :: rest =>
    if c = ',' ∧ n.isTop = true then [] :: splitTop n rest
    else Text.consHead c (splitTop (n.next c) rest)

/-- The arguments of an argument text, trimmed; blank text has none. -/
def splitArguments (text : List Char) : List (List Char) :=
  if Text.allBlank text then [] else (splitTop .none text).map Text.trim

/-- The text between single quotes. -/
def unquote? : List Char → Option (List Char)
  | '\'' :: rest => if rest.getLast? = some '\'' then some rest.dropLast else none
  | _ => none

/-- The value of an argument. -/
def readArgument (text : List Char) : Json :=
  match unquote? text with
  | some inner => .string (String.ofList inner)
  | none => (Json.parseChars? text).getD (.string (String.ofList text))

/-! ### Nodes from names -/

/-- The names that shorthand may use. -/
structure Names where
  /-- The operators in effect. -/
  registry : Registry
  /-- The fragments, if there are any. -/
  fragments : Option (Dict Json)

namespace Names

/-- Whether there is a fragment of this name. -/
def hasFragment (names : Names) (name : String) : Bool :=
  names.fragments.any fun fs => Dict.hasKey fs name

/-- The properties of an operator node with the given parameters: those of an object, the children
of an array, or the one child that anything else is. -/
def operatorFields (k : OperatorKind) : Json → Dict Json
  | .object fields => Dict.extend [(Key.operator, .string k.name)] fields
  | .array items => [(Key.operator, .string k.name), (Key.children, .array items)]
  | v => [(Key.operator, .string k.name), (Key.children, .array [v])]

/-- The properties of a fragment node with the given parameters, of which only those of an object
count. -/
def fragmentFields (name : String) : Json → Dict Json
  | .object fields => Dict.extend [(Key.fragment, .string name)] fields
  | _ => [(Key.fragment, .string name)]

/-- The node that a name stands for, with the given parameters. -/
def build? (names : Names) (name : String) (parameters : Json) : Option Json :=
  match names.registry.resolve? name with
  | some k => some (.object (operatorFields k parameters))
  | none =>
    if names.hasFragment name then some (.object (fragmentFields name parameters)) else none

end Names

/-! ### Walking through a value -/

/-- The name behind a dollar sign. -/
def afterSigil? (key : String) : Option String :=
  match key.toList with
  | '$' :: rest => some (String.ofList rest)
  | _ => none

mutual

/-- Shorthand expanded throughout a value, where `onString` expands call strings. -/
def walk (names : Names) (onString : String → Option Json) : Json → Json
  | .string s => (onString s).getD (.string s)
  | .array items => .array (walkItems names onString items)
  | .object fields =>
    if isNode (.object fields) then .object (walkNode names onString fields)
    else
      match fields with
      | [(key, v)] =>
        match (afterSigil? key).bind fun name =>
            names.build? name (walkParameters names onString v) with
        | some node => node
        | none => .object [(key, walk names onString v)]
      | fields => .object (walkFields names onString fields)
  | v => v

/-- The elements of an array, each walked through. -/
def walkItems (names : Names) (onString : String → Option Json) : List Json → List Json
  | [] => []
  | v :: rest => walk names onString v :: walkItems names onString rest

/-- The values of entries, each walked through. -/
def walkFields (names : Names) (onString : String → Option Json) :
    List (String × Json) → List (String × Json)
  | [] => []
  | (k, v) :: rest => (k, walk names onString v) :: walkFields names onString rest

/-- Parameters: an object of parameters is not shorthand itself, only its values may be. -/
def walkParameters (names : Names) (onString : String → Option Json) : Json → Json
  | .object fields => .object (walkFields names onString fields)
  | .array items => .array (walkItems names onString items)
  | .string s => (onString s).getD (.string s)
  | v => v

/-- The properties of a node, each walked through; `parameters` declare bindings and are no
shorthand themselves, unless they are computed by an operator. -/
def walkNode (names : Names) (onString : String → Option Json) :
    List (String × Json) → List (String × Json)
  | [] => []
  | (k, v) :: rest =>
    (k, if k = Key.parameters ∧ isOperatorNode v = false then walkParameters names onString v
        else walk names onString v) :: walkNode names onString rest

end

/-- The node a call string stands for; calls nest at most `depth` deep. -/
def expandCall? (names : Names) : Nat → String → Option Json
  | 0, _ => none
  | depth + 1, s =>
    match call? s.toList with
    | none => none
    | some (name, text) =>
      let arguments := (splitArguments text).map fun a =>
        walk names (expandCall? names depth) (readArgument a)
      names.build? (String.ofList (Text.trim name)) (.array arguments)

/-- The node a call string stands for.  An argument is shorter than the call it belongs to, so calls
nest less deep than the string is long. -/
def expandString? (names : Names) (s : String) : Option Json :=
  expandCall? names s.toList.length s

/-- Shorthand expanded throughout a value. -/
def preprocess (names : Names) (v : Json) : Json := walk names (expandString? names) v

end JsonExpr.Shorthand
