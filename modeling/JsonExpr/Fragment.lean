import JsonExpr.Json.Parser
import JsonExpr.Node
import JsonExpr.Schema.Basic

/-!
# Fragments

A fragment is a named template.  Its definition may carry metadata beside the template; the metadata
are informative and take no part in evaluation.

A fragment node stands for the template laid over its own properties, with its parameters laid over
both.

Main definitions:

* `JsonExpr.FragmentDefinition` — a template and its metadata;
* `JsonExpr.FragmentDefinition.ofJson` — the two parts of a definition;
* `JsonExpr.FragmentDefinition.instantiate` — the node that a fragment node stands for.
-/

set_option autoImplicit false

namespace JsonExpr

/-- What a definition says about itself. -/
structure FragmentMetadata where
  /-- What the fragment does. -/
  description : Option String
  /-- The parameters it declares, as written. -/
  parameters : Option Json

namespace FragmentMetadata

/-- No metadata. -/
def none : FragmentMetadata := ⟨.none, .none⟩

/-- The metadata in a value, which has to be an object. -/
def ofJson? (v : Json) : Option FragmentMetadata :=
  v.asObject?.map fun fields =>
    ⟨(Dict.get? fields "description").bind Json.asString?, Dict.get? fields "parameters"⟩

/-- The metadata as entries of an object. -/
def entries (m : FragmentMetadata) : Dict Json :=
  optionalField "description" (m.description.map Json.string) ++
    optionalField "parameters" m.parameters

end FragmentMetadata

/-- A named template. -/
structure FragmentDefinition where
  /-- The template. -/
  template : Json
  /-- The metadata, if there are any. -/
  metadata : Option FragmentMetadata

namespace FragmentDefinition

/-- Holds the metadata of a definition. -/
def metadataKey : String := "metadata"

/-- The two parts of a definition. -/
def ofJson : Json → FragmentDefinition
  | .object fields =>
    match Dict.get? fields metadataKey with
    | some m => ⟨.object (Dict.swapRemove fields metadataKey), FragmentMetadata.ofJson? m⟩
    | none => ⟨.object fields, none⟩
  | v => ⟨v, none⟩

/-- The properties of a fragment node that are laid under its template. -/
def ownFields (node : Dict Json) : Dict Json :=
  Dict.filterKeys (fun key => key != Key.fragment && key != Key.parameters) node

/-- The node that a fragment node stands for. -/
def instantiate (node template : Dict Json) (parameters : Option Json) : Json :=
  .object (Dict.extend (Dict.extend (ownFields node) template)
    ((parameters.bind Json.asObject?).getD []))

end FragmentDefinition

end JsonExpr
