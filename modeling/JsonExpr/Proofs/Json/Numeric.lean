import JsonExpr.Coercion
import JsonExpr.Proofs.Decimal.Exact

/-!
# Numbers that are extracted again

A double becomes a value as an integer if it is small and whole, as itself if it is finite, and as
`null` otherwise.  The number in such a value is the value itself, whichever it became, but for
`null`: the number in `null` is zero.

Main results:

* `JsonExpr.Json.ofNumeric_eq_null_iff` — only doubles that are not finite become `null`;
* `JsonExpr.Json.extractNumber_ofNumeric` — **the number in a value that is a double is that
  value**;
* `JsonExpr.Json.extractNumber_null` — the number in `null` is zero.
-/

set_option autoImplicit false

namespace JsonExpr.Json

theorem isNaN_of_isFinite {f : Float} (h : f.isFinite = true) : f.isNaN = false := by
  have hfinite : f.toModel.unpack.isFinite = true := h
  change f.toModel.unpack.isNaN = false
  cases hf : f.toModel.unpack <;> rw [hf] at hfinite <;> first | rfl | cases hfinite

theorem extractNumber_number (n : Number) (h : n.toFloat.isFinite = true) :
    extractNumber (number n) = ofNumeric n.toFloat := by
  have hextract : extractNumber (number n) =
      if n.toFloat.isNaN then number n else ofNumeric n.toFloat := rfl
  rw [hextract, isNaN_of_isFinite h]
  rfl

/-- A small integer that was made a double is made an integer again. -/
theorem ofNumeric_ofInt {n : Int} (h : n.natAbs < exactLimit) (fits : FitsWord n) :
    ofNumeric (Float.ofInt n) = number (.int n fits) := by
  have hfound : Number.ofInt? n = some (.int n fits) := dif_pos fits
  have hkept : ((Float.ofInt n).isFinite && Decimal.isWhole (Float.ofInt n) &&
      decide (n.natAbs < exactLimit)) = true := by
    rw [Decimal.isFinite_ofInt h, Decimal.isWhole_ofInt h, decide_eq_true h]
    rfl
  simp only [ofNumeric, Decimal.wholePart_ofInt h]
  rw [if_pos hkept, hfound]

theorem ofFloat_of_isFinite {f : Float} (h : f.isFinite = true) :
    ofFloat f = number (.float f h) := by
  have hfound : Number.ofFloat? f = some (.float f h) := dif_pos h
  rw [ofFloat, hfound]

/-- What a finite double becomes: a small integer, or the double itself. -/
theorem ofNumeric_of_isFinite {f : Float} (h : f.isFinite = true) :
    (∃ n fits, n.natAbs < exactLimit ∧ ofNumeric f = number (.int n fits)) ∨
      ofNumeric f = number (.float f h) := by
  unfold ofNumeric
  dsimp only
  split
  · next hsmall =>
    simp only [Bool.and_eq_true, decide_eq_true_eq] at hsmall
    split
    · next i hi =>
      rw [Number.ofInt?] at hi
      split at hi
      · next fits =>
        cases hi
        exact .inl ⟨_, fits, hsmall.2, rfl⟩
      · cases hi
    · exact .inr (ofFloat_of_isFinite h)
  · exact .inr (ofFloat_of_isFinite h)

/-- Only doubles that are not finite become `null`. -/
theorem ofNumeric_eq_null_iff (f : Float) : ofNumeric f = null ↔ f.isFinite = false := by
  constructor
  · intro hnull
    refine Bool.eq_false_iff.mpr fun h => ?_
    rcases ofNumeric_of_isFinite h with ⟨n, fits, -, heq⟩ | heq <;> rw [hnull] at heq <;> cases heq
  · intro h
    have hfound : Number.ofFloat? f = none := dif_neg (Bool.eq_false_iff.mp h)
    simp [ofNumeric, ofFloat, h, hfound]

/-- **The number in a value that is a double is that value.** -/
theorem extractNumber_ofNumeric {f : Float} (h : f.isFinite = true) :
    extractNumber (ofNumeric f) = ofNumeric f := by
  rcases ofNumeric_of_isFinite h with ⟨n, fits, hsmall, heq⟩ | heq
  · rw [heq, extractNumber_number (.int n fits) (Decimal.isFinite_ofInt hsmall)]
    exact ofNumeric_ofInt hsmall fits
  · have hsame : (Number.float f h).toFloat = f := rfl
    have hextract := extractNumber_number (.float f h) h
    rw [hsame] at hextract
    rw [heq, hextract, heq]

theorem extractNumber_null : extractNumber null = int 0 := by
  have hextract : extractNumber null =
      if (Float.ofInt 0).isNaN then null else ofNumeric (Float.ofInt 0) := rfl
  have hsmall : (0 : Int).natAbs < exactLimit := by decide
  rw [hextract, isNaN_of_isFinite (Decimal.isFinite_ofInt hsmall),
    ofNumeric_ofInt hsmall (by decide)]
  rfl

end JsonExpr.Json
