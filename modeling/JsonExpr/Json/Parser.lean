import JsonExpr.Json.Basic
import JsonExpr.Json.Literal

/-!
# Reading JSON text

The grammar is the strict one: no comments, no trailing commas, four kinds of blank, and no control
characters inside strings.  Arrays and objects nest at most `maxNesting` deep; an escape that
denotes half of a surrogate pair is refused.  When an object repeats a key, the last value stands in
the first place.

Main definitions:

* `JsonExpr.Json.readString?` — the rest of a string after its opening quote;
* `JsonExpr.Json.readValue?` — the value a text starts with;
* `JsonExpr.Json.parse?` — the value a whole text denotes.
-/

set_option autoImplicit false

namespace JsonExpr.Json

/-- Arrays and objects may nest this deep. -/
def maxNesting : Nat := 127

/-- The blanks between tokens. -/
def isSpace (c : Char) : Bool := c == ' ' || c == '\t' || c == '\n' || c == '\r'

/-- A text without the blanks in front of it. -/
def skipSpaces (text : List Char) : List Char := text.dropWhile isSpace

/-! ### Strings -/

/-- The value of a hexadecimal digit. -/
def hexValue? (c : Char) : Option Nat :=
  if '0' ≤ c ∧ c ≤ '9' then some (c.toNat - '0'.toNat)
  else if 'a' ≤ c ∧ c ≤ 'f' then some (c.toNat - 'a'.toNat + 10)
  else if 'A' ≤ c ∧ c ≤ 'F' then some (c.toNat - 'A'.toNat + 10)
  else none

/-- The number that four hexadecimal digits denote. -/
def hexUnit? (a b c d : Char) : Option Nat := do
  let a ← hexValue? a
  let b ← hexValue? b
  let c ← hexValue? c
  let d ← hexValue? d
  pure (((a * 16 + b) * 16 + c) * 16 + d)

/-- Whether a unit is the first half of a surrogate pair. -/
def isHighSurrogate (n : Nat) : Bool := 0xD800 ≤ n && n ≤ 0xDBFF

/-- Whether a unit is the second half of a surrogate pair. -/
def isLowSurrogate (n : Nat) : Bool := 0xDC00 ≤ n && n ≤ 0xDFFF

/-- The character that a surrogate pair denotes. -/
def ofSurrogates (high low : Nat) : Char :=
  Char.ofNat (0x10000 + (high - 0xD800) * 0x400 + (low - 0xDC00))

/-- The character that a letter after a backslash denotes. -/
def shortEscape? : Char → Option Char
  | '"' => some '"'
  | '\\' => some '\\'
  | '/' => some '/'
  | 'b' => some '\x08'
  | 'f' => some '\x0c'
  | 'n' => some '\n'
  | 'r' => some '\r'
  | 't' => some '\t'
  | _ => none

/-- Puts a character in front of what was read. -/
def andThen (c : Char) (r : Option (List Char × List Char)) : Option (List Char × List Char) :=
  r.map fun (read, rest) => (c :: read, rest)

/-- The characters of a string up to its closing quote, and the text after it. -/
def readString? : List Char → Option (List Char × List Char)
  | [] => none
  | '"' :: rest => some ([], rest)
  | '\\' :: 'u' :: a :: b :: c :: d :: '\\' :: 'u' :: e :: f :: g :: h :: rest =>
    match hexUnit? a b c d with
    | none => none
    | some unit =>
      if isHighSurrogate unit then
        match hexUnit? e f g h with
        | none => none
        | some low =>
          if isLowSurrogate low then andThen (ofSurrogates unit low) (readString? rest) else none
      else if isLowSurrogate unit then none
      else andThen (Char.ofNat unit) (readString? ('\\' :: 'u' :: e :: f :: g :: h :: rest))
  | '\\' :: 'u' :: a :: b :: c :: d :: rest =>
    match hexUnit? a b c d with
    | none => none
    | some unit =>
      if isHighSurrogate unit || isLowSurrogate unit then none
      else andThen (Char.ofNat unit) (readString? rest)
  | '\\' :: c :: rest =>
    match shortEscape? c with
    | none => none
    | some c => andThen c (readString? rest)
  | c :: rest =>
    if c.toNat < 0x20 || c == '\\' then none else andThen c (readString? rest)

/-! ### Values -/

/-- The elements of an array after its opening bracket, each read by `value`, up to the closing one.
The array has at least one element and at most `fuel`. -/
def readItems? (value : List Char → Option (Json × List Char)) :
    Nat → List Char → Option (List Json × List Char)
  | 0, _ => none
  | fuel + 1, text =>
    match value text with
    | none => none
    | some (v, rest) =>
      match skipSpaces rest with
      | ',' :: rest => (readItems? value fuel rest).map fun (vs, rest) => (v :: vs, rest)
      | ']' :: rest => some ([v], rest)
      | _ => none

/-- The entries of an object after its opening brace, each value read by `value`, up to the closing
one, as they are written.  The object has at least one entry and at most `fuel`. -/
def readEntries? (value : List Char → Option (Json × List Char)) :
    Nat → List Char → Option (List (String × Json) × List Char)
  | 0, _ => none
  | fuel + 1, text =>
    match skipSpaces text with
    | '"' :: rest =>
      match readString? rest with
      | none => none
      | some (key, rest) =>
        match skipSpaces rest with
        | ':' :: rest =>
          match value rest with
          | none => none
          | some (v, rest) =>
            let entry := (String.ofList key, v)
            match skipSpaces rest with
            | ',' :: rest =>
              (readEntries? value fuel rest).map fun (es, rest) => (entry :: es, rest)
            | '}' :: rest => some ([entry], rest)
            | _ => none
        | _ => none
    | _ => none

/-- The value a text starts with, after blanks, and the rest of the text; arrays and objects nest at
most `depth` deep. -/
def readValue? : Nat → List Char → Option (Json × List Char)
  | depth, text =>
    match skipSpaces text with
    | 'n' :: 'u' :: 'l' :: 'l' :: rest => some (null, rest)
    | 't' :: 'r' :: 'u' :: 'e' :: rest => some (bool true, rest)
    | 'f' :: 'a' :: 'l' :: 's' :: 'e' :: rest => some (bool false, rest)
    | '"' :: rest => (readString? rest).map fun (s, rest) => (string (String.ofList s), rest)
    | '[' :: rest =>
      match depth with
      | 0 => none
      | depth + 1 =>
        match skipSpaces rest with
        | ']' :: rest => some (array [], rest)
        | rest => (readItems? (readValue? depth) rest.length rest).map fun (vs, rest) =>
          (array vs, rest)
    | '{' :: rest =>
      match depth with
      | 0 => none
      | depth + 1 =>
        match skipSpaces rest with
        | '}' :: rest => some (object [], rest)
        | rest => (readEntries? (readValue? depth) rest.length rest).map fun (es, rest) =>
          (object (Dict.ofPairs es), rest)
    | text =>
      match readLiteral? text with
      | none => none
      | some (l, rest) => l.value?.map fun n => (number n, rest)

/-- The value that a text denotes, with nothing but blanks around it. -/
def parseChars? (text : List Char) : Option Json :=
  match readValue? maxNesting text with
  | some (v, rest) => if (skipSpaces rest).isEmpty then some v else none
  | none => none

/-- The value that a string denotes as JSON text. -/
def parse? (s : String) : Option Json := parseChars? s.toList

end JsonExpr.Json
