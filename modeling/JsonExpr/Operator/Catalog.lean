import JsonExpr.Operator.Kind
import JsonExpr.Schema.Basic

/-!
# The schemas of the operators

Names, aliases, parameters and descriptions, as editors and messages show them.

Main definitions:

* `JsonExpr.OperatorKind.schema` — the schema of an operator.
-/

set_option autoImplicit false

namespace JsonExpr

namespace Catalog

open ParamSchema (mandatory optional)

/-! ### Types and examples that recur -/

/-- Any value that is there. -/
def anyValue : ExpectedType := .basic .any

/-- A string. -/
def aString : ExpectedType := .basic .string

/-- A number. -/
def aNumber : ExpectedType := .basic .number

/-- A truth value. -/
def aBoolean : ExpectedType := .basic .boolean

/-- An array. -/
def anArray : ExpectedType := .basic .array

/-- An object. -/
def anObject : ExpectedType := .basic .object

/-- An example string. -/
def text (s : String) : Option Json := some (.string s)

/-- An example truth value. -/
def flag (b : Bool) : Option Json := some (.bool b)

/-- The integers of a list as an example array. -/
def integers (ns : List Int) : Option Json :=
  some (.array (ns.map fun n => Json.ofOption ((Number.ofInt? n).map Json.number)))

/-- A switch that a node may leave out and that has no example. -/
def switch (name description : String) (aliases : List String) : ParamSchema :=
  optional name aBoolean description aliases none

/-- A list of values with the given description and example. -/
def values (description : String) (sample : Option Json) : ParamSchema :=
  mandatory "values" anArray description [] sample

/-! ### Logic and comparison -/

/-- Conjunction. -/
def and : OperatorSchema where
  name := "AND"
  description := "Logical AND"
  aliases := ["and", "&", "&&"]
  parameters :=
    [values "Returns true if all values are true" (some (.array [.bool true, .bool false]))]

/-- Disjunction. -/
def or : OperatorSchema where
  name := "OR"
  description := "Logical OR"
  aliases := ["or", "|", "||"]
  parameters :=
    [values "Returns true if any values are true" (some (.array [.bool true, .bool false]))]

/-- The parameters of the equality tests. -/
def equalityParameters : List ParamSchema :=
  [values "Values to compare" (integers [1, 1]),
    switch "caseInsensitive" "Compare strings ignoring case" [],
    switch "nullEqualsUndefined" "Treat null and undefined as equal" []]

/-- Equality of all values. -/
def equal : OperatorSchema where
  name := "EQUAL"
  description := "Test multiple values are equal"
  aliases := ["=", "eq", "equal", "equals"]
  parameters := equalityParameters

/-- Some values differ. -/
def notEqual : OperatorSchema where
  name := "NOT_EQUAL"
  description := "Test if any values are different"
  aliases := ["!=", "!", "ne", "notEqual"]
  parameters := equalityParameters

/-- The parameters of the order tests. -/
def orderParameters : List ParamSchema :=
  [values "Array of values - 1st element will be compared to the 2nd" (integers [5, 3]),
    optional "strict" aBoolean "Whether equal values fail the comparison (default true)" []
      (flag true)]

/-- The first value is greater. -/
def greaterThan : OperatorSchema where
  name := "GREATER_THAN"
  description := "Test if a value is greater than (or equal to) another value"
  aliases := [">", "greaterThan", "higher", "larger"]
  parameters := orderParameters

/-- The first value is less. -/
def lessThan : OperatorSchema where
  name := "LESS_THAN"
  description := "Test if a value is smaller than (or equal to) another value"
  aliases := ["<", "lessThan", "lower", "smaller"]
  parameters := orderParameters

/-! ### Arithmetic -/

/-- Sums, concatenations and merged objects. -/
def plus : OperatorSchema where
  name := "PLUS"
  description := "Add numbers, concatenate strings or arrays, or merge objects"
  aliases := ["+", "plus", "add", "concat", "join", "merge"]
  parameters :=
    [values "Values to add together" (integers [2, 3]),
      optional "type" aString "Force concatenation as \"string\" or \"array\"" [] none]

/-- Differences. -/
def subtract : OperatorSchema where
  name := "SUBTRACT"
  description := "Subtract one numerical value from another"
  aliases := ["-", "subtract", "minus", "takeaway"]
  parameters :=
    [optional "values" anArray "Array of values - 2nd element will be subtracted from the first" []
        (integers [10, 5]),
      optional "from" aNumber "Numerical value that will be subtracted from" ["subtractFrom"]
        (some (Json.int 100)),
      optional "subtract" aNumber "Numerical value to subtract" [] (some (Json.int 50))]

/-- Products. -/
def multiply : OperatorSchema where
  name := "MULTIPLY"
  description := "Multiply several numerical values together"
  aliases := ["*", "x", "multiply", "times"]
  parameters := [values "Array of values whose product will be computed" (integers [5, 2, 3])]

/-- Quotients and remainders. -/
def divide : OperatorSchema where
  name := "DIVIDE"
  description := "Divide one numerical value by another"
  aliases := ["/", "divide", "÷"]
  parameters :=
    [optional "values" anArray "Array of values - 1st element will be divided by the 2nd" []
        (integers [100, 10]),
      optional "dividend" aNumber "The number that will be divided" ["divide"]
        (some (Json.int 99)),
      optional "divisor" aNumber "The number that dividend will be divided by" ["by", "divideBy"]
        (some (Json.int 3)),
      optional "output" (.literal ["quotient", "remainder"])
        "Whether to output a quotient or remainder instead of a decimal" [] none]

/-! ### Choice -/

/-- One of two branches. -/
def conditional : OperatorSchema where
  name := "CONDITIONAL"
  description := "Return different values depending on a condition expression"
  aliases := ["?", "conditional", "ifThen"]
  parameters :=
    [mandatory "condition" anyValue "A boolean expression" [] (flag true),
      mandatory "valueIfTrue" anyValue "Value returned if the condition is true" ["ifTrue"]
        (text "Yes"),
      mandatory "valueIfFalse" anyValue "Value returned if the condition is false"
        ["ifFalse", "ifNot"] (text "No")]

/-- One of several branches, by value. -/
def matching : OperatorSchema where
  name := "MATCH"
  description := "Return different values depending on the value of an expression"
  aliases := ["match", "switch"]
  parameters :=
    [mandatory "matchExpression" (.oneOf [.string, .number, .boolean])
        "Expression whose value selects the branch" ["match"] (text "cat"),
      optional "branches" (.oneOf [.object, .array])
        "Branch values keyed by match value (otherwise the node's remaining properties are used)"
        ["arms"] (some (.object [("cat", .string "Meow"), ("dog", .string "Woof")]))]

/-! ### Texts, arrays and objects -/

/-- Tests against a pattern. -/
def regex : OperatorSchema where
  name := "REGEX"
  description := "Compare a string against a regex pattern"
  aliases := ["regex", "patternMatch", "regexp", "matchPattern"]
  parameters :=
    [mandatory "testString" aString "The string to test" ["string", "value"]
        (text "test@example.com"),
      mandatory "pattern" aString "Regex pattern to test against"
        ["regex", "regexp", "regExp", "re"]
        (text "^[A-Za-z0-9.]+@[A-Za-z0-9]+\\.[A-Za-z0-9.]+$")]

/-- Parts of the data. -/
def objectProperties : OperatorSchema where
  name := "OBJECT_PROPERTIES"
  description := "Extract values from data objects"
  aliases := ["dataProperties", "data", "getData", "objectProperties", "objProps", "getProperty",
    "getObjProp"]
  parameters :=
    [mandatory "property" aString "The path to the required property (e.g. \"user.firstName\")"
        ["path", "propertyName"] (text "data.property"),
      optional "additionalData" anObject "Additional data objects to be considered"
        ["additionalObjects"] none]

/-- Templates filled with values. -/
def stringSubstitution : OperatorSchema where
  name := "STRING_SUBSTITUTION"
  description := "Replace values in a string using simple parameter substitution"
  aliases := ["stringSubstitution", "substitute", "stringSub", "replace"]
  parameters :=
    [mandatory "string" aString "A parameterized (%1, %2 or \x7b\x7bname\x7d\x7d) string" []
        (text "Hello, %1"),
      mandatory "substitutions" (.oneOf [.array, .object])
        "An array (positional) or object (named) of substitution values" ["replacements"]
        (some (.array [.string "World"])),
      optional "trimWhiteSpace" aBoolean "Whether to trim white space from substituted values" []
        (flag true),
      optional "substitutionCharacter" (.literal ["%", "$"])
        "Marker for positional parameters (default %)" [] none,
      optional "numberMapping" anObject "Per-parameter text to use for particular numeric values" []
        none]

/-- Texts cut into pieces. -/
def split : OperatorSchema where
  name := "SPLIT"
  description := "Split a string into an array"
  aliases := ["split", "arraySplit"]
  parameters :=
    [mandatory "value" aString "String to split" ["string"] (text "one, two, three"),
      optional "delimiter" aString "Substring to split on (default: \" \")" ["separator"]
        (text ","),
      optional "trimWhiteSpace" aBoolean "Trim white space from each element (default: true)" []
        (flag true),
      optional "excludeTrailing" aBoolean
        "Drop a trailing empty element left by a final delimiter (default: true)" [] (flag true)]

/-- Lengths of arrays. -/
def count : OperatorSchema where
  name := "COUNT"
  description := "Count elements in an array"
  aliases := ["count", "length"]
  parameters := [values "An array to count" (integers [1, 2, 3, 4, 5])]

/-- Objects put together. -/
def buildObject : OperatorSchema where
  name := "BUILD_OBJECT"
  description := "Construct an object using objects defining keys and values"
  aliases := ["buildObject", "build", "object"]
  parameters :=
    [mandatory "properties" anArray "An array of objects, each with a \"key\" and \"value\""
        ["values", "keyValPairs", "keyValuePairs"]
        (some (.array [.object [("key", .string "key1"), ("value", .string "value1")],
          .object [("key", .string "key2"), ("value", .string "value2")]]))]

/-- The value itself. -/
def passthru : OperatorSchema where
  name := "PASSTHRU"
  description := "Pass the input value through unmodified (useful for type conversion)"
  aliases := ["_", "passThru", "passthru", "pass", "ignore", "coerce", "convert"]
  parameters :=
    [mandatory "value" anyValue "Value to pass through" []
      (text "This value will be returned unmodified")]

/-! ### Requests -/

/-- The parameters of the plain requests; `bodyAliases` are further names of the parameters sent. -/
def requestParameters (bodyAliases : List String) : List ParamSchema :=
  [mandatory "url" aString "Endpoint URL" ["endpoint"]
      (text "https://restcountries.com/v3.1/name/zealand"),
    optional "parameters" anObject "Query parameters or request body (key-value pairs)" bodyAliases
      (some (.object [("fullText", .bool true)])),
    optional "returnProperty" aString "Property path to extract from the response"
      ["outputProperty"] (text "name.common"),
    optional "headers" anObject "HTTP headers, layered over the evaluator's default headers" []
      none,
    switch "useCache" "Whether to cache the response (default: true)" []]

/-- Requests with a query string. -/
def get : OperatorSchema where
  name := "GET"
  description := "HTTP GET request"
  aliases := ["get", "api"]
  parameters := requestParameters []

/-- Requests with a body. -/
def post : OperatorSchema where
  name := "POST"
  description := "HTTP POST request"
  aliases := ["post"]
  parameters := requestParameters ["data", "body"]

/-- GraphQL queries. -/
def graphQL : OperatorSchema where
  name := "GRAPHQL"
  description := "GraphQL request"
  aliases := ["graphQl", "graphql", "gql"]
  parameters :=
    [mandatory "query" aString "GraphQL query string" []
        (text ("query getCountries \x7b countries(filter: \x7bcontinent: \x7beq: " ++
          "\"OC\"\x7d\x7d) \x7b name \x7d \x7d")),
      optional "url" aString "Endpoint URL (defaults to the configured connection)" ["endpoint"]
        none,
      optional "variables" anObject "GraphQL variables (key-value pairs)" [] (some (.object [])),
      optional "returnNode" aString "Property path to extract from the response data"
        ["returnProperty", "outputProperty"] (text "countries"),
      optional "headers" anObject
        "HTTP headers, layered over the connection and evaluator headers" [] none,
      switch "useCache" "Whether to cache the response (default: true)" []]

/-- Database queries. -/
def pgSql : OperatorSchema where
  name := "PG_SQL"
  description := "Query a Postgres database through the host SQL connection"
  aliases := ["pgSql", "sql", "postgres", "pg", "pgDb"]
  parameters :=
    [mandatory "query" aString
        "A SQL query string, with parameterised replacements (e.g. $1, $2, etc)" []
        (text "SELECT * FROM users WHERE id = $1"),
      optional "values" (.oneOf [.array, .object]) "Values to replace in the SQL string parameters"
        ["replacements"] (integers [1]),
      switch "single" "Return only the first record" ["queryType"],
      switch "flatten" "Return each record as an array of values rather than an object" ["flat"],
      optional "type" (.literal ["array", "string", "number"])
        "Collapse all returned values into a single array, string or number" [] none,
      switch "useCache" "Whether to cache the result (default: true)" []]

/-- Calls of host functions. -/
def customFunctions : OperatorSchema where
  name := "CUSTOM_FUNCTIONS"
  description := "Call a host-provided function"
  aliases := ["customFunctions", "customFunction", "objectFunctions", "function", "functions",
    "runFunction"]
  parameters :=
    [mandatory "functionPath" aString "Path (in options.functions) to the required function"
        ["functionsPath", "functionName", "funcName", "path"] (text "myFunction"),
      optional "args" anArray "Arguments for the function" ["arguments", "variables"]
        (some (.array [Json.int 1, Json.int 2, .string "three"])),
      switch "useCache" "Whether to cache the result (default: false)" []]

end Catalog

/-- The schema of an operator. -/
def OperatorKind.schema : OperatorKind → OperatorSchema
  | .and => Catalog.and
  | .or => Catalog.or
  | .equal => Catalog.equal
  | .notEqual => Catalog.notEqual
  | .plus => Catalog.plus
  | .subtract => Catalog.subtract
  | .multiply => Catalog.multiply
  | .divide => Catalog.divide
  | .greaterThan => Catalog.greaterThan
  | .lessThan => Catalog.lessThan
  | .conditional => Catalog.conditional
  | .regex => Catalog.regex
  | .objectProperties => Catalog.objectProperties
  | .stringSubstitution => Catalog.stringSubstitution
  | .split => Catalog.split
  | .count => Catalog.count
  | .get => Catalog.get
  | .post => Catalog.post
  | .pgSql => Catalog.pgSql
  | .graphQL => Catalog.graphQL
  | .buildObject => Catalog.buildObject
  | .matching => Catalog.matching
  | .customFunctions => Catalog.customFunctions
  | .passthru => Catalog.passthru

end JsonExpr
