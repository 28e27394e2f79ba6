import JsonExpr.Proofs.Json.Part
import JsonExpr.Proofs.Registry
import JsonExpr.Proofs.Shorthand.Arguments
import JsonExpr.Proofs.Shorthand.Expansion

/-!
# Programs written as shorthand

A program is a tree of operators with values at its leaves.  It can be written as a call string, with
the leaves as compact JSON text, and it stands for a node.  Expanding the string gives the node,
whatever commas, brackets, quotation marks and escapes there are in the values.

A call string is read in three turns that alternate: it is cut into arguments, each argument is read
as JSON, and what was read is expanded.  A leaf comes back from the second turn and is left alone by
the third.  A call is no JSON, so it becomes a string in the second turn, and the third starts again
with it.

Main definitions:

* `JsonExpr.Shorthand.Inert` — values that contain nothing expandable;
* `JsonExpr.Shorthand.Verbatim` — values that are printed and expanded as they are;
* `JsonExpr.Shorthand.Program` — trees of operators;
* `JsonExpr.Shorthand.Program.text`, `JsonExpr.Shorthand.Program.node` — a program as text, and the
  node it stands for.

Main results:

* `JsonExpr.Shorthand.preprocess_of_inert` — values that contain no shorthand are left alone;
* `JsonExpr.Shorthand.Program.text_expands_to_node` — **the text of a program expands to its node**.
-/

set_option autoImplicit false

namespace JsonExpr.Shorthand

open Json (Part Legible)

/-! ### Leaves -/

/-- What shorthand or a node may be: a call string, an object that names an operator or a fragment,
and an object whose single key starts with a dollar sign. -/
inductive Expandable : Json → Prop where
  | call {s : String} : call? s.toList ≠ none → Expandable (.string s)
  | node {v : Json} : isNode v = true → Expandable v
  | invocation {name : String} {v : Json} : Expandable (.object [("$" ++ name, v)])

/-- A value that contains nothing expandable. -/
def Inert (v : Json) : Prop := ∀ u, Part u v → ¬ Expandable u

/-- A value that is printed and expanded as it is. -/
structure Verbatim (v : Json) : Prop where
  legible : Legible Json.maxNesting v
  inert : Inert v

namespace Inert

theorem string {s : String} (h : call? s.toList = none) : Inert (.string s) := by
  rintro u ⟨⟩ hexpandable
  cases hexpandable with
  | call hcall => exact hcall h
  | node hnode => cases hnode

theorem number (n : Number) : Inert (.number n) := by
  rintro u ⟨⟩ hexpandable
  cases hexpandable with
  | node hnode => cases hnode

theorem array {items : List Json} (h : ∀ v ∈ items, Inert v) : Inert (.array items) := by
  intro u hu hexpandable
  cases hu with
  | self =>
      cases hexpandable with
      | node hnode => cases hnode
  | item hv hu => exact h _ hv u hu hexpandable

end Inert

/-- Values that contain nothing expandable are left alone. -/
theorem preprocess_of_inert (names : Names) {v : Json} (h : Inert v) : preprocess names v = v := by
  induction v using Json.inductionOnParts with
  | string s =>
      have hcall : call? s.toList = none := by
        rw [← Option.not_isSome_iff_eq_none, Option.isSome_iff_ne_none]
        exact fun hcall => h _ .self (.call hcall)
      rw [preprocess_string, expandString?_eq, callOf?, hcall]
      rfl
  | array items ih =>
      rw [preprocess_array]
      congr 1
      refine (List.map_congr_left fun v hv => ?_).trans (List.map_id items)
      exact ih v hv fun u hu => h u (.item hv hu)
  | object fields ih =>
      have hnode : isNode (.object fields) = false := by
        rw [Bool.eq_false_iff]
        exact fun hnode => h _ .self (.node hnode)
      have hinvokes : ∀ name v, ¬ Invokes names name v fields := by
        rintro name v ⟨-⟩
        exact h _ .self .invocation
      rw [preprocess_plain hnode hinvokes,
        Dict.map_eq_self_iff (f := fun _ => preprocess names) |>.mpr]
      exact fun e he => ih e he fun u hu => h u (.entry he hu)
  | _ => rfl

/-! ### Programs -/

/-- A tree of operators that are available, with values at its leaves. -/
inductive Program (registry : Registry) where
  /-- A value. -/
  | leaf (value : Json) (verbatim : Verbatim value)
  /-- An operator with its arguments. -/
  | call (k : OperatorKind) (available : k ∈ registry.available)
      (arguments : List (Program registry))

namespace Program

variable {registry : Registry}

/-- **Induction on the arguments of a program.** -/
@[elab_as_elim] theorem inductionOnCalls {motive : Program registry → Prop}
    (leaf : ∀ value verbatim, motive (.leaf value verbatim))
    (call : ∀ k available arguments, (∀ t ∈ arguments, motive t) →
      motive (.call k available arguments)) (t : Program registry) : motive t :=
  @Program.rec registry motive (fun arguments => ∀ t ∈ arguments, motive t) leaf call
    (fun _ h => nomatch h) (fun _ _ ht harguments => List.forall_mem_cons.mpr ⟨ht, harguments⟩) t

mutual

/-- A program as text: a leaf as compact JSON, a call as its name and its arguments. -/
def print : Program registry → List Char
  | leaf value _ => Json.render value
  | call k _ arguments => callText k.name.toList (printAll arguments)

/-- The texts of several programs. -/
def printAll : List (Program registry) → List (List Char)
  | [] => []
  | t :: rest => print t :: printAll rest

end

/-- The text of a program, as a string. -/
def text (t : Program registry) : String := String.ofList t.print

mutual

/-- The node that a program stands for. -/
def node : Program registry → Json
  | leaf value _ => value
  | call k _ arguments =>
    .object [(Key.operator, .string k.name), (Key.children, .array (nodes arguments))]

/-- The nodes that several programs stand for. -/
def nodes : List (Program registry) → List Json
  | [] => []
  | t :: rest => node t :: nodes rest

end

theorem printAll_eq (arguments : List (Program registry)) :
    printAll arguments = arguments.map print := by
  induction arguments with
  | nil => rfl
  | cons t arguments ih => rw [printAll, ih, List.map_cons]

theorem nodes_eq (arguments : List (Program registry)) : nodes arguments = arguments.map node := by
  induction arguments with
  | nil => rfl
  | cons t arguments ih => rw [nodes, ih, List.map_cons]

/-! ### Reading programs back -/

theorem isName_name (k : OperatorKind) : IsName k.name.toList where
  passes := by
    have hplain : (k.name.toList.all fun c => decide (c ∉ marks)) = true := by cases k <;> decide
    exact fun c hc => of_decide_eq_true (List.all_eq_true.mp hplain c hc)
  trimmed := .word (by cases k <;> decide) (by cases k <;> decide)

/-- Every program is found again among the arguments of a call. -/
theorem argument_print (t : Program registry) : Argument t.print := by
  induction t using inductionOnCalls with
  | leaf value verbatim => exact argument_render verbatim.legible
  | call k available arguments ih =>
      rw [print, printAll_eq]
      exact argument_callText (isName_name k) (List.forall_mem_map.mpr ih)

/-- The text of a call is no JSON. -/
theorem parseChars?_sigil (text : List Char) : Json.parseChars? ('$' :: text) = none := by
  have hread : Json.readValue? Json.maxNesting ('$' :: text) = none := by
    unfold Json.readValue?
    rw [Json.skipSpaces_cons (by decide)]
    rfl
  rw [Json.parseChars?, hread]

theorem readArgument_call (k : OperatorKind) (available : k ∈ registry.available)
    (arguments : List (Program registry)) :
    readArgument (call k available arguments).print = .string (call k available arguments).text := by
  rw [text, print, callText, readArgument, parseChars?_sigil]
  rfl

/-- The text of a leaf is JSON, and starts with no quotation mark of its own. -/
theorem readArgument_render {v : Json} (h : Legible Json.maxNesting v) :
    readArgument (Json.render v) = v := by
  obtain ⟨c, more, heq, hc⟩ := Json.begins_render h
  have hquoted : unquote? (Json.render v) = none := by
    rw [heq, unquote?]
    exact fun rest hrest => (hc.ne (by decide)) (List.cons.inj hrest).1
  rw [readArgument, hquoted, Json.parseChars?_render h]
  rfl

/-- The call string of a program has the operator's name and the arguments' texts. -/
theorem callOf?_text (k : OperatorKind) (available : k ∈ registry.available)
    (arguments : List (Program registry)) :
    callOf? (call k available arguments).text =
      some (k.name, arguments.map fun t => readArgument t.print) := by
  have harguments : ∀ text ∈ printAll arguments, Argument text := by
    rw [printAll_eq]
    exact List.forall_mem_map.mpr fun t _ => argument_print t
  rw [callOf?, text, String.toList_ofList, print, call?_callText (isName_name k), Option.map_some,
    splitArguments_joinWith harguments, (isName_name k).trimmed.trim_eq, String.ofList_toList,
    printAll_eq, List.map_map]
  rfl

/-- An argument expands to the node of its program. -/
theorem preprocess_readArgument (names : Names) (t : Program names.registry) :
    preprocess names (readArgument t.print) = t.node := by
  induction t using inductionOnCalls with
  | leaf value verbatim =>
      rw [print, readArgument_render verbatim.legible,
        preprocess_of_inert names verbatim.inert, node]
  | call k available arguments ih =>
      -- The call comes back as a string, which is expanded by cutting it again.
      have hk := Registry.resolve?_name_of_available available
      have hchildren : arguments.map (fun t => preprocess names (readArgument t.print)) =
          nodes arguments := by
        rw [nodes_eq]
        exact List.map_congr_left ih
      rw [readArgument_call, preprocess_string, expandString?_eq, callOf?_text, Option.bind_some,
        List.map_map, Function.comp_def, hchildren, Names.build?, hk, node]
      rfl

/-- **The text of a program expands to its node.** -/
theorem text_expands_to_node (names : Names) (k : OperatorKind)
    (available : k ∈ names.registry.available) (arguments : List (Program names.registry)) :
    preprocess names (.string (call k available arguments).text) =
      (call k available arguments).node := by
  rw [← readArgument_call, preprocess_readArgument]

/-- Quotation marks, brackets and commas in the strings of a program, and a call among its
arguments. -/
theorem nested_call_is_read_back :
    let names : Names := ⟨Registry.full, none⟩
    OperatorKind.plus ∈ names.registry.available ∧
      preprocess names (.string "$PLUS(\"a, \\\"(b]\", $COUNT([\"$x\",-7]))") =
        .object [("operator", .string "PLUS"), ("children", .array [.string "a, \"(b]",
          .object [("operator", .string "COUNT"),
            ("children", .array [.array [.string "$x", .int (-7)]])]])] := by
  intro names
  have hplus : OperatorKind.plus ∈ names.registry.available := by decide
  have hcount : OperatorKind.count ∈ names.registry.available := by decide
  have hstring : Verbatim (.string "a, \"(b]") := ⟨.string _, .string (by decide)⟩
  have harray : Verbatim (.array [.string "$x", .int (-7)]) :=
    ⟨.array (List.forall_mem_cons.mpr ⟨.string _, List.forall_mem_singleton.mpr (.int (-7) _)⟩),
      .array (List.forall_mem_cons.mpr
        ⟨.string (by decide), List.forall_mem_singleton.mpr (.number _)⟩)⟩
  have hexpands := text_expands_to_node names .plus hplus
    [.leaf _ hstring, .call .count hcount [.leaf _ harray]]
  have htext : (call .plus hplus [.leaf _ hstring, .call .count hcount [.leaf _ harray]]).text =
      "$PLUS(\"a, \\\"(b]\", $COUNT([\"$x\",-7]))" := by rfl
  rw [htext] at hexpands
  exact ⟨hplus, hexpands⟩

end Program

end JsonExpr.Shorthand
