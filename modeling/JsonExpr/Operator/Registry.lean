import JsonExpr.Operator.Catalog
import JsonExpr.Text.CamelCase

/-!
# Resolving operator names

An operator is found under its canonical name and under each of its aliases, however their words are
marked off.  A registry may leave operators out.

Main definitions:

* `JsonExpr.normalizeName` — the spelling under which a name is looked up;
* `JsonExpr.Registry.aliasTable` — every normalised name and its operator;
* `JsonExpr.Registry` — the operators that are left out;
* `JsonExpr.Registry.resolve?` — the operator of a name.
-/

set_option autoImplicit false

namespace JsonExpr

/-- The spelling under which an operator name is looked up. -/
def normalizeName (name : String) : String := Text.camelCaseString name

/-- The operators in effect. -/
structure Registry where
  /-- The operators that may not be used. -/
  excluded : List OperatorKind

namespace Registry

/-- The normalised names of one operator. -/
def namesOf (k : OperatorKind) : List (String × OperatorKind) :=
  (k.name :: k.schema.aliases).map fun name => (normalizeName name, k)

/-- Every normalised name with its operator. -/
def aliasTable : Dict OperatorKind := OperatorKind.all.flatMap namesOf

/-- The operator of a name or alias, left out or not. -/
def kindOf? (name : String) : Option OperatorKind := Dict.get? aliasTable (normalizeName name)

/-- The registry with every operator. -/
def full : Registry := ⟨[]⟩

/-- The registry without the operators of the given names; unknown names are passed over. -/
def without (names : List String) : Registry := ⟨names.filterMap kindOf?⟩

/-- The operator of a name or alias, unless it is left out. -/
def resolve? (r : Registry) (name : String) : Option OperatorKind :=
  (kindOf? name).filter fun k => !r.excluded.contains k

/-- The operators in effect, in the order of the metadata. -/
def available (r : Registry) : List OperatorKind :=
  OperatorKind.all.filter fun k => !r.excluded.contains k

/-- The schemas of the operators in effect. -/
def schemas (r : Registry) : List OperatorSchema := r.available.map OperatorKind.schema

end Registry

end JsonExpr
