import JsonExpr.Proofs.Evaluation.Operands
import JsonExpr.Proofs.Evaluation.Requests
import JsonExpr.Proofs.Evaluation.Written
import JsonExpr.Proofs.Json.Numeric
import JsonExpr.Proofs.Operator.Precedence
import JsonExpr.Proofs.Operator.Weight

/-!
# Rows and the conversion of the same name

A query asks under `type` for its rows as one array, string or number.  The same key names the
conversion that the result of a node is put through, so rows that were given a shape are converted
to it once more.  An array stays what it is, and so do a string and a number.  But rows may have no
number in the first place, and then their shape is `null`.  The number in `null` is zero, so what
the query comes to cannot be told from a zero that was found.

Main definitions:

* `JsonExpr.RowShape.ofType?` — the shape of a type;
* `JsonExpr.RowShape.NoNumber` — rows without a number in the first place;
* `JsonExpr.Evaluation.AsksForRows` — a node that asks for rows in a shape.

Main results:

* `JsonExpr.RowShape.convert_apply` — the conversion of a type leaves its shapes as they are, but
  for `null`;
* `JsonExpr.rows_keep_their_shape_unless_null` — **a query comes to its rows in the shape of its
  type, or to zero if they have no number**.
-/

set_option autoImplicit false

namespace JsonExpr

/-! ### Shapes and conversions -/

namespace RowShape

/-- The shape that rows are given for a type. -/
def ofType? : String → Option RowShape
  | "array" => some array
  | "string" => some text
  | "number" => some number
  | _ => none

/-- Rows with nothing in the first place, or nothing that is a number. -/
def NoNumber (found : List (Dict Json)) : Prop :=
  ∀ v ∈ (allValues found).head?, v.toNumber.isFinite = false

variable {name : String} {shape : RowShape}

theorem ofOperands_of_type {operands : Operands} (hshape : ofType? name = some shape)
    (h : Operands.string? operands "type" = some name) : ofOperands operands = shape := by
  unfold ofType? at hshape
  rw [ofOperands, h]
  split at hshape <;> cases hshape <;> rfl

/-- The shape of rows is `null` if a number is asked for and there is none. -/
theorem apply_eq_null_iff (hshape : ofType? name = some shape) (found : List (Dict Json)) :
    shape.apply found = .null ↔ shape = .number ∧ NoNumber found := by
  unfold ofType? at hshape
  split at hshape <;> cases hshape
  · exact ⟨(nomatch ·), fun h => nomatch h.1⟩
  · exact ⟨(nomatch ·), fun h => nomatch h.1⟩
  · rw [apply, NoNumber]
    cases allValues found with
    | nil => simp
    | cons v rest => simp [Json.ofNumeric_eq_null_iff]

theorem exists_conversion (hshape : ofType? name = some shape) :
    ∃ type, OutputType.ofName? name = some type := by
  unfold ofType? at hshape
  split at hshape <;> cases hshape <;> exact ⟨_, rfl⟩

/-- **The conversion of a type leaves its shapes as they are**, but `null` becomes zero. -/
theorem convert_apply (hshape : ofType? name = some shape) {type : OutputType}
    (htype : OutputType.ofName? name = some type) (found : List (Dict Json)) :
    (shape.apply found ≠ .null → type.apply (shape.apply found) = shape.apply found) ∧
      (shape.apply found = .null → type.apply (shape.apply found) = Json.int 0) := by
  have hnull := apply_eq_null_iff hshape found
  unfold ofType? at hshape
  split at hshape <;> cases hshape <;> cases htype
  · exact ⟨fun _ => rfl, fun h => by cases h⟩
  · exact ⟨fun _ => rfl, fun h => by cases h⟩
  · refine ⟨fun hfilled => ?_, fun h => ?_⟩
    · rw [Ne, hnull, not_and, NoNumber] at hfilled
      rw [apply, OutputType.apply]
      cases hvalues : allValues found with
      | nil => simp [hvalues] at hfilled
      | cons v rest =>
          have hfinite : v.toNumber.isFinite = true := by simpa [hvalues] using hfilled
          exact Json.extractNumber_ofNumeric hfinite
    · rw [h]
      exact Json.extractNumber_null

end RowShape

/-! ### Queries -/

namespace Asking

variable (env : Env) {ev : Evaluator OperatorFault} {props : Props} {operands : Operands}
  {c : SqlConnection} {found : List (Dict Json)} {w w' : World}

/-- The names of the operands of a query. -/
def sqlNames : List String := ["query", "values", "single", "flatten", "type", "useCache"]

/-- Asking a connection for rows, which are then given their shape. -/
def rows (c : SqlConnection) (operands : Operands) : Run OperatorFault Json := do
  let found ← c.ask (Request.ofSql operands)
  pure ((RowShape.ofOperands operands).apply found)

/-- A query whose operands are evaluated and have their types asks for rows. -/
theorem sql_eq_cachedIf (evaluated : ev.operands props sqlNames w = (some (.ok operands), w'))
    (checked : env.checkOperands .pgSql operands = .ok ())
    (configured : env.options.sqlConnection = some c) :
    sql env ev props w =
      cachedIf env operands true (Request.sqlKey operands) (rows c operands) w' := by
  have hneed := need_of_eq_some configured .noSqlConnection w'
  rw [sqlNames] at evaluated
  unfold sql
  rw [Run.bind_of_ok evaluated, Run.bind_of_ok (passes checked w'), Run.bind_of_ok hneed]
  rfl

/-- Rows come in their shape, whether the connection is asked for them or they were kept. -/
theorem cachedIf_rows
    (answered : c.respond (History.queriesOf w.history c.connection) (Request.ofSql operands) =
      .ok found)
    (kept : env.options.caches (Operands.value? operands "useCache") true = true →
      ∀ v, w.cache.result? (Request.sqlKey operands) = some v →
        v = (RowShape.ofOperands operands).apply found) :
    ∃ w', cachedIf env operands true (Request.sqlKey operands) (rows c operands) w =
      (some (.ok ((RowShape.ofOperands operands).apply found)), w') := by
  have hask : ∃ w₁, rows c operands w =
      (some (.ok ((RowShape.ofOperands operands).apply found)), w₁) := by
    have hresponse : c.ask (Request.ofSql operands) w =
        (some (.ok found), { w with
          history := .sql c.connection (Request.ofSql operands) :: w.history }) := by
      rw [SqlConnection.ask, answered]
      rfl
    exact ⟨_, Run.bind_of_ok hresponse⟩
  obtain ⟨w₁, hrows⟩ := hask
  unfold cachedIf
  split
  · next hcaches =>
    cases hresult : w.cache.result? (Request.sqlKey operands) with
    | some v =>
        rw [cached_of_result hresult, kept hcaches v hresult]
        exact ⟨_, rfl⟩
    | none => exact ⟨_, cached_of_no_result hresult hrows⟩
  · exact ⟨w₁, hrows⟩

end Asking

namespace Evaluation

/-- A node that asks a connection for rows in the shape of a type, without another conversion.  What
is kept under its key, if it looks there, are such rows. -/
structure AsksForRows (env : Env) (depth : Nat) (node : Dict Json) (w : World) (name : String)
    (shape : RowShape) (found : List (Dict Json)) : Prop where
  noKeyTwice : Dict.KeysNodup node
  type : Dict.get? node Key.type = some (.string name)
  shaped : RowShape.ofType? name = some shape
  noOutputType : Dict.get? node Key.outputType = none
  answered : ∃ operands w₁ c,
    ReachesOperands env depth .pgSql Asking.sqlNames node w operands w₁ ∧
      env.options.sqlConnection = some c ∧
      c.respond (History.queriesOf w₁.history c.connection) (Request.ofSql operands) =
        .ok found ∧
      (env.options.caches (Operands.value? operands "useCache") true = true →
        ∀ v, w₁.cache.result? (Request.sqlKey operands) = some v → v = shape.apply found)

/-- The types of shapes are no names of bindings, and no nodes in strings. -/
theorem plainText_of_ofType? {name : String} {shape : RowShape}
    (h : RowShape.ofType? name = some shape) (env : Env) : PlainText env name := by
  unfold RowShape.ofType? at h
  split at h <;> cases h <;> exact ⟨by decide, fun _ => by decide⟩

/-- Children of a query are its text and its values. -/
theorem get?_type_of_gather {ev : Evaluator Failure} {node : Dict Json} {props : Props}
    {w w' : World} {v : Json} (hnodup : Dict.KeysNodup node)
    (htype : Dict.get? node Key.type = some v)
    (h : gather ev .pgSql node w = (some (.ok props), w')) : Dict.get? props "type" = some v := by
  have hown : Dict.get? (ownProps OperatorKind.pgSql.schema node) "type" = some v := by
    have hplain : OperatorKind.pgSql.schema.plain? node "type" = Dict.get? node "type" :=
      plain?_of_keysNodup hnodup (by decide) (by decide)
    rw [get?_ownProps, hplain]
    exact congrArg (Option.or · _) htype
  obtain ⟨-, rfl, -⟩ | ⟨_, items, -, -, hplaced⟩ := gather_eq_ok h
  · exact hown
  · have hquery : Dict.hasKey (["query"].zip items) "type" = false := by
      cases items <;> rfl
    cases hplaced
    rw [Children.headAndRest, Dict.get?_insert_of_ne _ _ (by decide), Children.byNames,
      Dict.get?_extend_of_not_hasKey hquery]
    exact hown

/-- A node that asks for rows in the shape of a type comes to them in this shape, put through the
conversion of the same name. -/
theorem AsksForRows.eval_eq {env : Env} {depth : Nat} {node : Dict Json} {w : World}
    {name : String} {shape : RowShape} {found : List (Dict Json)}
    (h : AsksForRows env (depth + 1) node w name shape found) {type : OutputType}
    (htype : OutputType.ofName? name = some type) :
    ∃ w', eval env (depth + 2) (.object node) w =
      (some (.ok (type.apply (shape.apply found))), w') := by
  obtain ⟨operands, w₁, c, hreaches, configured, answered, kept⟩ := h.answered
  have hplain := plainText_of_ofType? h.shaped env
  have hoperand : Operands.string? operands "type" = some name := by
    obtain ⟨props, w₀, hgather, -, hoperands⟩ := hreaches.evaluated
    have hprop := get?_type_of_gather h.noKeyTwice h.type hgather
    have honly : ∀ u w w', inside (eval env (depth + 1)) (.string name) w = (some (.ok u), w') →
        u = .string name := fun u w w' hu => by
      have heval := hplain.eval_eq depth w
      rw [eval_of_inside hu] at heval
      cases heval
      rfl
    rw [Operands.string?, Evaluator.value?_of_operands hprop honly (by decide) hoperands]
    rfl
  have hshape := RowShape.ofOperands_of_type h.shaped hoperand
  rw [← hshape] at kept
  obtain ⟨w₂, hrows⟩ := Asking.cachedIf_rows env answered kept
  rw [hshape] at hrows
  have computed : ∀ props w₀,
      (inside (eval env (depth + 1))).operands props Asking.sqlNames w₀ =
        (some (.ok operands), w₁) →
      compute env (inside (eval env (depth + 1))) .pgSql props w₀ =
        (some (.ok (shape.apply found)), w₂) := fun props w₀ hoperands =>
    (Asking.sql_eq_cachedIf env hoperands hreaches.checked configured).trans hrows
  have converted : convert env (eval env (depth + 1)) .pgSql node (Dict.get? node Key.fallback)
      (shape.apply found) w₂ = (some (.ok (type.apply (shape.apply found))), w₂) := by
    have hconversion : conversionOf node = some (.string name) := by
      rw [conversionOf, h.noOutputType, h.type]
      rfl
    exact convert_of_name hconversion (hplain.eval_eq depth w₂) htype _
  exact ⟨_, hreaches.eval_eq (by decide) computed converted⟩

end Evaluation

open Evaluation in
/-- **A query comes to its rows in the shape of its type, or to zero if they have no number.**  That
is when a number is asked for and the rows have none in the first place: their shape is `null` then,
and the conversion of the same name makes it zero. -/
theorem rows_keep_their_shape_unless_null {env : Env} {depth : Nat} {node : Dict Json} {w : World}
    {name : String} {shape : RowShape} {found : List (Dict Json)}
    (h : AsksForRows env (depth + 1) node w name shape found) :
    (∃ v w', eval env (depth + 2) (.object node) w = (some (.ok v), w') ∧
      (shape.apply found ≠ .null → v = shape.apply found) ∧
      (shape.apply found = .null → v = Json.int 0)) ∧
    (shape.apply found = .null ↔ shape = .number ∧ RowShape.NoNumber found) := by
  obtain ⟨type, htype⟩ := RowShape.exists_conversion h.shaped
  obtain ⟨w', heval⟩ := h.eval_eq htype
  obtain ⟨hkeeps, hnull⟩ := RowShape.convert_apply h.shaped htype found
  exact ⟨⟨_, w', heval, hkeeps, hnull⟩, RowShape.apply_eq_null_iff h.shaped found⟩

/-! ### A database that always gives the same rows -/

/-- A host with such a database. -/
def Env.holding (found : List (Dict Json)) : Env :=
  ⟨{ sqlConnection := some (.canned 0 (found.map .object)) }, Registry.full⟩

namespace Evaluation

/-- A query for totals. -/
def totals (name : String) : Dict Json :=
  [("operator", .string "PG_SQL"), ("query", .string "SELECT total"), ("type", .string name)]

/-- It asks for rows in the shape of its type, whatever the rows are. -/
theorem asksForRows_totals {name : String} {shape : RowShape}
    (h : RowShape.ofType? name = some shape) (found : List (Dict Json)) :
    AsksForRows (.holding found) 1 (totals name) ⟨[], ResultCache.empty 0, []⟩ name shape
      found where
  noKeyTwice := by
    have hkeys : ["operator", "query", "type"].Nodup := by decide
    exact hkeys
  type := rfl
  shaped := h
  noOutputType := rfl
  answered := by
    have hplain : ∀ key ∈ ["query", "type"], isReserved key = false ∧
        OperatorKind.pgSql.schema.canonicalName? key = none := by decide
    have hnodup : ["query", "type"].Nodup := by decide
    have hchecked : (Env.holding found).checkOperands .pgSql (Asking.sqlNames.map fun key =>
        (key, Dict.get? [("query", .string "SELECT total"), ("type", .string name)] key)) =
          .ok () := by
      unfold RowShape.ofType? at h
      split at h <;> cases h <;> rfl
    have hobjects : (found.map Json.object).filterMap Json.asObject? = found := by
      rw [List.filterMap_map]
      exact List.filterMap_some
    refine ⟨_, ⟨[], ResultCache.empty 0, []⟩, .canned 0 (found.map .object),
      .of_literals (operatorOf?_name rfl) rfl hplain hnodup rfl ?_ hchecked, rfl,
      congrArg Except.ok hobjects, fun _ _ h => nomatch h⟩
    simp only [List.forall_mem_cons]
    exact ⟨eval_text rfl (by decide) 0 _, (plainText_of_ofType? h _).eval_eq 0 _,
      fun _ h => nomatch h⟩

end Evaluation

/-- The total of the first row is found. -/
theorem first_total_is_found :
    ∃ w', eval (.holding [[("total", Json.int 42)], [("total", Json.int 7)]]) 2
      (.object (Evaluation.totals "number")) ⟨[], ResultCache.empty 0, []⟩ =
        (some (.ok (Json.int 42)), w') := by
  have hshape : RowShape.number.apply [[("total", Json.int 42)], [("total", Json.int 7)]] =
      Json.int 42 := by
    have hsmall : (42 : Int).natAbs < Json.exactLimit := by decide
    exact Json.ofNumeric_ofInt hsmall (by decide)
  have hnumber : RowShape.ofType? "number" = some .number := rfl
  obtain ⟨⟨v, w', heval, hkeeps, -⟩, -⟩ := rows_keep_their_shape_unless_null
    (Evaluation.asksForRows_totals hnumber [[("total", Json.int 42)], [("total", Json.int 7)]])
  rw [hshape] at hkeeps
  rw [hkeeps (fun h => nomatch h)] at heval
  exact ⟨w', heval⟩

/-- Where there are no rows there is no total, and yet the query comes to zero. -/
theorem no_rows_come_to_zero :
    RowShape.number.apply [] = .null ∧ Json.int 0 ≠ .null ∧
    ∃ w', eval (.holding []) 2 (.object (Evaluation.totals "number"))
      ⟨[], ResultCache.empty 0, []⟩ = (some (.ok (Json.int 0)), w') := by
  have hnumber : RowShape.ofType? "number" = some .number := rfl
  have htype : OutputType.ofName? "number" = some .number := rfl
  obtain ⟨w', heval⟩ := (Evaluation.asksForRows_totals hnumber []).eval_eq htype
  have hzero : OutputType.number.apply (RowShape.number.apply []) = Json.int 0 :=
    Json.extractNumber_null
  rw [hzero] at heval
  exact ⟨rfl, (nomatch ·), w', heval⟩

end JsonExpr
