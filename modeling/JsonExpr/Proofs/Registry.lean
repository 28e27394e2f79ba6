import JsonExpr.Evaluation
import JsonExpr.Proofs.Dict

/-!
# Names and operators

A name stands for an operator exactly if it is a spelling of the operator's canonical name or of one
of its aliases, and no name is a spelling of two operators.  A registry that leaves an operator out
by one of its names resolves none of them.

Main definitions:

* `JsonExpr.OperatorKind.spellings` — the normalised names of an operator, as a table;
* `JsonExpr.Registry.Spells` — a name that normalises as a name or alias of an operator.

Main results:

* `JsonExpr.Registry.kindOf?_eq_some_iff` — **names resolve to the operators they spell**;
* `JsonExpr.Registry.resolve?_without_ne` — a name that is left out takes its operator with it.
-/

set_option autoImplicit false

namespace JsonExpr

/-- The normalised names of an operator. -/
def OperatorKind.spellings : OperatorKind → List String
  | and => ["and", "and", "&", "&&"]
  | or => ["or", "or", "|", "||"]
  | equal => ["equal", "=", "eq", "equal", "equals"]
  | notEqual => ["notEqual", "!=", "!", "ne", "notEqual"]
  | plus => ["plus", "+", "plus", "add", "concat", "join", "merge"]
  | subtract => ["subtract", "-", "subtract", "minus", "takeaway"]
  | multiply => ["multiply", "*", "x", "multiply", "times"]
  | divide => ["divide", "/", "divide", "÷"]
  | greaterThan => ["greaterThan", ">", "greaterThan", "higher", "larger"]
  | lessThan => ["lessThan", "<", "lessThan", "lower", "smaller"]
  | conditional => ["conditional", "?", "conditional", "ifThen"]
  | regex => ["regex", "regex", "patternMatch", "regexp", "matchPattern"]
  | objectProperties =>
    ["objectProperties", "dataProperties", "data", "getData", "objectProperties", "objProps",
      "getProperty", "getObjProp"]
  | stringSubstitution =>
    ["stringSubstitution", "stringSubstitution", "substitute", "stringSub", "replace"]
  | split => ["split", "split", "arraySplit"]
  | count => ["count", "count", "length"]
  | get => ["get", "get", "api"]
  | post => ["post", "post"]
  | pgSql => ["pgSql", "pgSql", "sql", "postgres", "pg", "pgDb"]
  | graphQL => ["graphql", "graphQl", "graphql", "gql"]
  | buildObject => ["buildObject", "buildObject", "build", "object"]
  | matching => ["match", "match", "switch"]
  | customFunctions =>
    ["customFunctions", "customFunctions", "customFunction", "objectFunctions", "function",
      "functions", "runFunction"]
  | passthru => ["passthru", "_", "passThru", "passthru", "pass", "ignore", "coerce", "convert"]

namespace Registry

/-- A name that normalises as the canonical name or an alias of an operator. -/
def Spells (name : String) (k : OperatorKind) : Prop :=
  ∃ known ∈ k.name :: k.schema.aliases, normalizeName name = normalizeName known

theorem normalizeName_eq_iff {name s : String} :
    normalizeName name = s ↔ Text.camelCase name.toList = s.toList := by
  rw [normalizeName, Text.camelCaseString, ← String.toList_inj, String.toList_ofList]

theorem namesOf_eq (k : OperatorKind) : namesOf k = k.spellings.map fun s => (s, k) := by
  -- The strings are opened into characters first; evaluating them as they stand is slow.
  cases k <;> simp [namesOf, OperatorKind.name, OperatorKind.schema, OperatorKind.spellings,
    normalizeName_eq_iff, Catalog.and, Catalog.or, Catalog.equal, Catalog.notEqual, Catalog.plus,
    Catalog.subtract, Catalog.multiply, Catalog.divide, Catalog.greaterThan, Catalog.lessThan,
    Catalog.conditional, Catalog.regex, Catalog.objectProperties, Catalog.stringSubstitution,
    Catalog.split, Catalog.count, Catalog.get, Catalog.post, Catalog.pgSql, Catalog.graphQL,
    Catalog.buildObject, Catalog.matching, Catalog.customFunctions, Catalog.passthru] <;>
    decide +kernel

theorem aliasTable_eq :
    aliasTable = OperatorKind.all.flatMap fun k => k.spellings.map fun s => (s, k) := by
  rw [aliasTable, funext namesOf_eq]

/-- No spelling belongs to two operators. -/
theorem get?_aliasTable {k : OperatorKind} {s : String} (h : s ∈ k.spellings) :
    Dict.get? aliasTable s = some k := by
  -- The table of spellings is closed, so that it can be checked name by name.
  have table : ∀ k ∈ OperatorKind.all, ∀ s ∈ k.spellings, Dict.get?
      (OperatorKind.all.flatMap fun k => k.spellings.map fun s => (s, k)) s = some k := by
    decide +kernel
  rw [aliasTable_eq]
  exact table k k.mem_all s h

/-- **Names resolve to the operators they spell.** -/
theorem kindOf?_eq_some_iff {name : String} {k : OperatorKind} :
    kindOf? name = some k ↔ Spells name k := by
  constructor
  · intro h
    obtain ⟨k', -, hmem⟩ := List.mem_flatMap.mp (Dict.mem_of_get? h)
    obtain ⟨known, hknown, heq⟩ := List.mem_map.mp hmem
    obtain ⟨hname, rfl⟩ := Prod.mk.injEq .. ▸ heq
    exact ⟨known, hknown, hname.symm⟩
  · rintro ⟨known, hknown, heq⟩
    have hmem : (normalizeName known, k) ∈ namesOf k := List.mem_map.mpr ⟨known, hknown, rfl⟩
    rw [namesOf_eq] at hmem
    obtain ⟨s, hs, hsk⟩ := List.mem_map.mp hmem
    obtain ⟨hname, -⟩ := Prod.mk.injEq .. ▸ hsk
    rw [kindOf?, heq, ← hname]
    exact get?_aliasTable hs

/-- A name that is no spelling of any operator resolves to none. -/
theorem kindOf?_eq_none {name : String}
    (h : ∀ k ∈ OperatorKind.all, normalizeName name ∉ k.spellings) : kindOf? name = none := by
  cases hk : kindOf? name with
  | none => rfl
  | some k =>
      have hmem := Dict.mem_of_get? hk
      rw [aliasTable_eq] at hmem
      obtain ⟨k', hk', hmem⟩ := List.mem_flatMap.mp hmem
      obtain ⟨s, hs, heq⟩ := List.mem_map.mp hmem
      cases heq
      exact absurd hs (h k hk')

/-- Where no operator is left out, a name resolves to the operator that it spells. -/
theorem resolve?_full {name : String} {k : OperatorKind} (h : Spells name k) :
    full.resolve? name = some k := by
  rw [resolve?, kindOf?_eq_some_iff.mpr h]
  rfl

/-- Where no operator is left out, each is found by its own name. -/
theorem resolve?_name (k : OperatorKind) : full.resolve? k.name = some k :=
  resolve?_full ⟨k.name, List.mem_cons_self, rfl⟩

/-- Every operator that is available is found by its own name. -/
theorem resolve?_name_of_available {r : Registry} {k : OperatorKind} (h : k ∈ r.available) :
    r.resolve? k.name = some k := by
  rw [resolve?, kindOf?_eq_some_iff.mpr ⟨k.name, List.mem_cons_self, rfl⟩]
  exact Option.filter_eq_some_iff.mpr ⟨rfl, (List.mem_filter.mp h).2⟩

/-- A name that is left out takes its operator with it: no name resolves to it any more. -/
theorem resolve?_without_ne {names : List String} {excluded : String} {k : OperatorKind}
    (hmem : excluded ∈ names) (hspells : Spells excluded k) (name : String) :
    (without names).resolve? name ≠ some k := by
  intro h
  obtain ⟨-, hk⟩ := Option.filter_eq_some_iff.mp h
  have hleft : k ∈ (without names).excluded :=
    List.mem_filterMap.mpr ⟨excluded, hmem, kindOf?_eq_some_iff.mpr hspells⟩
  simp [hleft] at hk

end Registry

/-- A node that gives its operator the full name has this operator if none is left out. -/
theorem Evaluation.operatorOf?_name {o : Options} {node : Dict Json} {k : OperatorKind}
    (h : Dict.get? node Key.operator = some (.string k.name)) :
    operatorOf? ⟨o, Registry.full⟩ node = some k := by
  rw [operatorOf?, h]
  exact Registry.resolve?_name k

end JsonExpr
