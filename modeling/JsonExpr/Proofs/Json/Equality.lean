import JsonExpr.Proofs.DictOrder
import JsonExpr.Proofs.Json.Part
import Mathlib

/-!
# Equality of values

Values are equal when they have the same structure, numbers by value as doubles and objects whatever
the order of their keys.  The test on objects looks one way only: there are as many entries, and
every key of the first has an equal value in the second.  Where no key occurs twice this is enough,
for then there is no room for a key that only the second has.

Numbers would not be equal to themselves if they could be not-a-number.  They cannot: a double in a
value is finite, and an integer is rounded to a number.

Main definitions:

* `JsonExpr.Number.IsNumber` — doubles that are equal to themselves.

Main results:

* `JsonExpr.Number.isNumber_toFloat` — numbers of JSON are equal to themselves as doubles;
* `JsonExpr.Json.equalBy_object_iff` — **objects are equal if their values are equal key by key**;
* `JsonExpr.Json.sameValue_refl`, `JsonExpr.Json.sameValue_symm`, `JsonExpr.Json.sameValue_trans` —
  equality of values is an equivalence.
-/

set_option autoImplicit false

namespace JsonExpr

/-! ### Doubles -/

namespace Number

open Float.Model (UnpackedFloat Format)

/-- The double is not not-a-number. -/
def IsNumber (f : Float) : Prop := f.toModel.unpack ≠ .notANumber

theorem beq_self {f : Float} (h : IsNumber f) : (f == f) = true :=
  (UnpackedFloat.beq_iff_ne_notANumber_and_eq _ _).mpr ⟨h, h, .inl rfl⟩

theorem isNumber_of_isFinite {f : Float} (h : f.isFinite = true) : IsNumber f := by
  intro heq
  have hfinite : f.toModel.unpack.isFinite = true := h
  rw [heq] at hfinite
  cases hfinite

/-- What is not not-a-number is not written like it. -/
theorem pack_ne_packedNaN (spec : Format) {x : UnpackedFloat} (h : x ≠ .notANumber) :
    x.pack spec ≠ UnpackedFloat.packedNaN spec := by
  -- Not-a-number has the greatest exponent, as infinities have, and a mantissa that is not zero.
  have hnan : UnpackedFloat.isNaNBits (UnpackedFloat.packedNaN spec) = true :=
    UnpackedFloat.isNaNBits_packedNaN
  simp only [UnpackedFloat.isNaNBits, decide_eq_true_eq] at hnan
  intro heq
  rw [← heq] at hnan
  obtain ⟨hexponent, hmantissa⟩ := hnan
  revert hexponent hmantissa
  fun_cases UnpackedFloat.pack with
  | case1 => exact absurd rfl h
  | case2 s => simp [UnpackedFloat.packedInfinity]
  | case3 s => simp [UnpackedFloat.packedZero]
  | case4 s m e hm biased hlarge => simp [UnpackedFloat.packedInfinity]
  | case5 s m e hm bits biased hsmall hnormal =>
      intro hexponent
      have hbits := congrArg BitVec.toNat hexponent
      simp only [UnpackedFloat.unpackExponent_packComponents, BitVec.neg_one_eq_allOnes,
        BitVec.toNat_ofNat, BitVec.toNat_allOnes] at hbits
      rw [Nat.mod_eq_of_lt (by omega)] at hbits
      omega
  | case6 s m e hm bits biased hsmall hsubnormal =>
      intro hexponent
      simp [Nat.pos_iff_ne_zero.1 spec.he] at hexponent

theorem isNumber_pack {x : UnpackedFloat} (h : x ≠ .notANumber) :
    IsNumber (.ofModel (Float.Model.pack x)) := by
  intro heq
  exact pack_ne_packedNaN .binary64 h
    ((UnpackedFloat.unpack_eq_notANumber_iff_of_valid UnpackedFloat.valid_pack).mp heq)

/-! ### Integers as doubles -/

theorem roundWithAccuracy_ne (spec : Format) (s : UnpackedFloat.Sign) (m : Nat) (e : Int)
    (accuracy : UnpackedFloat.Accuracy) :
    UnpackedFloat.roundWithAccuracy spec s m e accuracy ≠ .notANumber := by
  unfold UnpackedFloat.roundWithAccuracy
  dsimp only
  split
  · exact fun h => nomatch h
  · exact fun h => nomatch h

theorem normalize_ne (spec : Format) (m e : Int) (s : UnpackedFloat.Sign) :
    UnpackedFloat.normalize spec m e s ≠ .notANumber := by
  unfold UnpackedFloat.normalize
  split
  · exact roundWithAccuracy_ne _ _ _ _ _
  · exact fun h => nomatch h
  · exact roundWithAccuracy_ne _ _ _ _ _

theorem mul_finite_ne (spec : Format) {x : UnpackedFloat} (h : x ≠ .notANumber)
    (s : UnpackedFloat.Sign) (m : Nat) (e : Int) (hm : 0 < m) :
    UnpackedFloat.mul spec x (.finite s m e hm) ≠ .notANumber := by
  cases x with
  | notANumber => exact absurd rfl h
  | infinity s' => exact fun h => nomatch h
  | zero s' => exact fun h => nomatch h
  | finite s' m' e' hm' => exact roundWithAccuracy_ne _ _ _ _ _

theorem ofScientific_ne (spec : Format) (m : Nat) :
    UnpackedFloat.ofScientific spec m 0 ≠ .notANumber := by
  unfold UnpackedFloat.ofScientific
  split
  · exact fun h => nomatch h
  split
  · exact fun h => nomatch h
  split
  · exact fun h => nomatch h
  · rw [if_pos (Int.le_refl 0)]
    exact roundWithAccuracy_ne _ _ _ _ _

/-- A natural number is small, and multiplied by one, or else rounded. -/
theorem isNumber_ofNat (n : Nat) : IsNumber (Float.ofNat n) := by
  have hscientific : Float.ofNat n = Float.ofScientific n false 0 := rfl
  rw [hscientific, Float.ofScientific]
  split
  · have hone : ∃ s m e hm, (Float.ofBits 0x3FF0000000000000).toModel.unpack =
        .finite s m e hm := ⟨_, _, _, _, rfl⟩
    obtain ⟨s, m, e, hm, hone⟩ := hone
    have hsmall : IsNumber n.toUInt64.toFloat := isNumber_pack (normalize_ne _ _ _ _)
    refine isNumber_pack (x := UnpackedFloat.mul _ n.toUInt64.toFloat.toModel.unpack
      (Float.ofBits 0x3FF0000000000000).toModel.unpack) ?_
    rw [hone]
    exact mul_finite_ne _ hsmall s m e hm
  · exact isNumber_pack (ofScientific_ne _ n)

theorem isNumber_neg {f : Float} (h : IsNumber f) : IsNumber f.neg := by
  refine isNumber_pack ?_
  revert h
  unfold IsNumber UnpackedFloat.neg
  cases f.toModel.unpack with
  | notANumber => exact fun h => absurd rfl h
  | infinity s => exact fun _ h => nomatch h
  | zero s => exact fun _ h => nomatch h
  | finite s m e hm => exact fun _ h => nomatch h

/-- Numbers of JSON are equal to themselves as doubles. -/
theorem isNumber_toFloat (n : Number) : IsNumber n.toFloat := by
  cases n with
  | int n fits =>
      cases n with
      | ofNat n => exact isNumber_ofNat n
      | negSucc n => exact isNumber_neg (isNumber_ofNat n.succ)
  | float f finite => exact isNumber_of_isFinite finite

theorem sameValue_refl (a : Number) : a.sameValue a = true := beq_self (isNumber_toFloat a)

theorem sameValue_symm {a b : Number} (h : a.sameValue b = true) : b.sameValue a = true :=
  PartialEquivBEq.symm h

theorem sameValue_trans {a b c : Number} (hab : a.sameValue b = true)
    (hbc : b.sameValue c = true) : a.sameValue c = true :=
  PartialEquivBEq.trans hab hbc

end Number

/-! ### Values without keys that occur twice -/

namespace Json

theorem wellFormed_array_iff {items : List Json} :
    WellFormed (.array items) ↔ ∀ v ∈ items, WellFormed v := by
  rw [WellFormed]
  induction items with
  | nil => simp [WellFormedItems]
  | cons v rest ih => rw [WellFormedItems, ih, List.forall_mem_cons]

theorem wellFormed_object_iff {fields : Dict Json} :
    WellFormed (.object fields) ↔ Dict.KeysNodup fields ∧ ∀ e ∈ fields, WellFormed e.2 := by
  rw [WellFormed]
  refine and_congr Iff.rfl ?_
  induction fields with
  | nil => simp [WellFormedFields]
  | cons e rest ih => rw [WellFormedFields, ih, List.forall_mem_cons]

/-! ### Equality by parts -/

variable {num : Number → Number → Bool}

theorem equalItemsBy_iff {as bs : List Json} :
    equalItemsBy num as bs = true ↔ List.Forall₂ (fun a b => equalBy num a b = true) as bs := by
  induction as generalizing bs with
  | nil =>
      cases bs with
      | nil => simp [equalItemsBy]
      | cons b bs => simp [equalItemsBy]
  | cons a as ih =>
      cases bs with
      | nil => simp [equalItemsBy]
      | cons b bs => rw [equalItemsBy, Bool.and_eq_true, ih, List.forall₂_cons]

theorem equalFieldsBy_iff {fields b : Dict Json} :
    equalFieldsBy num fields b = true ↔
      ∀ e ∈ fields, ∃ w, Dict.get? b e.1 = some w ∧ equalBy num e.2 w = true := by
  induction fields with
  | nil => simp [equalFieldsBy]
  | cons e rest ih =>
      rw [equalFieldsBy, Bool.and_eq_true, ih, List.forall_mem_cons]
      refine and_congr_left fun _ => ?_
      cases Dict.get? b e.1 with
      | none => simp
      | some w => simp

theorem equalBy_array_iff {as bs : List Json} :
    equalBy num (.array as) (.array bs) = true ↔
      List.Forall₂ (fun a b => equalBy num a b = true) as bs := by
  rw [equalBy, equalItemsBy_iff]

/-- Where keys are unique, there is no room for more keys than those that are found. -/
theorem keys_subset {a b : Dict Json} (ha : Dict.KeysNodup a) (hlength : a.length = b.length)
    (h : Dict.keys a ⊆ Dict.keys b) : Dict.keys b ⊆ Dict.keys a := by
  have hle : (Dict.keys b).length ≤ (Dict.keys a).length := by
    rw [Dict.keys, Dict.keys, List.length_map, List.length_map, hlength]
  exact ((List.subperm_of_subset ha h).perm_of_length_le hle).symm.subset

/-- **Objects are equal if their values are equal key by key**, so the order of keys does not
matter. -/
theorem equalBy_object_iff {a b : Dict Json} (ha : Dict.KeysNodup a) (hb : Dict.KeysNodup b) :
    equalBy num (.object a) (.object b) = true ↔
      ∀ key, Option.Rel (fun v w => equalBy num v w = true)
        (Dict.get? a key) (Dict.get? b key) := by
  rw [equalBy, Bool.and_eq_true, beq_iff_eq, equalFieldsBy_iff]
  constructor
  · rintro ⟨hlength, hfields⟩ key
    have hkeys : Dict.keys a ⊆ Dict.keys b := by
      intro key hkey
      obtain ⟨e, he, rfl⟩ := List.mem_map.mp hkey
      obtain ⟨w, hw, -⟩ := hfields e he
      exact List.mem_map.mpr ⟨_, Dict.mem_of_get? hw, rfl⟩
    cases hget : Dict.get? a key with
    | some v =>
        obtain ⟨w, hw, heq⟩ := hfields (key, v) (Dict.mem_of_get? hget)
        rw [hw]
        exact .some heq
    | none =>
        have hno : key ∉ Dict.keys b := by
          intro hkey
          have hfound := Dict.hasKey_iff.mpr (keys_subset ha hlength hkeys hkey)
          rw [Dict.hasKey, hget] at hfound
          cases hfound
        rw [Dict.hasKey_eq_false_iff.mp (Bool.eq_false_iff.mpr (mt Dict.hasKey_iff.mp hno))]
        exact .none
  · intro h
    have hkeys : ∀ key, key ∈ Dict.keys a ↔ key ∈ Dict.keys b := by
      intro key
      have hrel := h key
      rw [← Dict.hasKey_iff, ← Dict.hasKey_iff, Dict.hasKey, Dict.hasKey]
      generalize Dict.get? a key = v, Dict.get? b key = w at hrel
      cases hrel with
      | none => rfl
      | some _ => rfl
    constructor
    · have hperm := (List.perm_ext_iff_of_nodup ha hb).mpr hkeys
      simpa [Dict.keys] using hperm.length_eq
    · intro e he
      have hrel := h e.1
      rw [Dict.get?_of_mem ha he] at hrel
      cases hget : Dict.get? b e.1 with
      | none =>
          rw [hget] at hrel
          cases hrel
      | some w =>
          rw [hget] at hrel
          cases hrel with
          | some heq => exact ⟨w, rfl, heq⟩

/-! ### An equivalence -/

theorem equalBy_refl (hnum : ∀ n, num n n = true) {v : Json} (hv : WellFormed v) :
    equalBy num v v = true := by
  induction v using inductionOnParts with
  | null => rw [equalBy]
  | bool b => rw [equalBy, beq_self_eq_true]
  | number n => rw [equalBy, hnum]
  | string s => rw [equalBy, beq_self_eq_true]
  | array items ih =>
      rw [equalBy_array_iff]
      exact List.forall₂_same.mpr fun v hmem => ih v hmem (wellFormed_array_iff.mp hv v hmem)
  | object fields ih =>
      obtain ⟨hnodup, hfields⟩ := wellFormed_object_iff.mp hv
      rw [equalBy_object_iff hnodup hnodup]
      intro key
      cases hget : Dict.get? fields key with
      | none => exact .none
      | some v =>
          have hmem := Dict.mem_of_get? hget
          exact .some (ih _ hmem (hfields _ hmem))

/-- Options are related the other way if their values are. -/
theorem rel_flip {R S : Json → Json → Prop} {x y : Option Json} (hrel : Option.Rel R x y)
    (h : ∀ v w, x = some v → y = some w → R v w → S w v) : Option.Rel S y x := by
  cases hrel with
  | none => exact .none
  | some hr => exact .some (h _ _ rfl rfl hr)

theorem equalBy_symm (hnum : ∀ m n, num m n = true → num n m = true) {u v : Json}
    (hu : WellFormed u) (hv : WellFormed v) (h : equalBy num u v = true) :
    equalBy num v u = true := by
  induction u using inductionOnParts generalizing v with
  | array items ih =>
      cases v with
      | array others =>
          rw [equalBy_array_iff] at h ⊢
          rw [wellFormed_array_iff] at hu hv
          have hback : ∀ a ∈ items, ∀ b, WellFormed b → equalBy num a b = true →
              equalBy num b a = true := fun a ha b hb => ih a ha (hu a ha) hb
          have hitems := ((List.forall₂_and_left _ _).mpr ⟨hback, h⟩).flip
          exact ((List.forall₂_and_left _ _).mpr ⟨hv, hitems⟩).imp
            fun b a hba => hba.2.1 b hba.1 hba.2.2
      | _ => simp [equalBy] at h
  | object fields ih =>
      cases v with
      | object others =>
          obtain ⟨hnodup, hfields⟩ := wellFormed_object_iff.mp hu
          obtain ⟨hnodup', hothers⟩ := wellFormed_object_iff.mp hv
          rw [equalBy_object_iff hnodup hnodup'] at h
          rw [equalBy_object_iff hnodup' hnodup]
          refine fun key => rel_flip (h key) fun a b ha hb hab => ?_
          have ha := Dict.mem_of_get? ha
          exact ih _ ha (hfields _ ha) (hothers _ (Dict.mem_of_get? hb)) hab
      | _ => simp [equalBy] at h
  | _ => cases v <;> simp_all [equalBy]

theorem forall₂_trans {R : Json → Json → Prop} {as bs cs : List Json}
    (htrans : ∀ a ∈ as, ∀ b c, R a b → R b c → R a c) (hab : List.Forall₂ R as bs)
    (hbc : List.Forall₂ R bs cs) : List.Forall₂ R as cs := by
  induction hab generalizing cs with
  | nil => exact hbc
  | cons h _ ih =>
      cases hbc with
      | cons h' hrest =>
          obtain ⟨hhead, htail⟩ := List.forall_mem_cons.mp htrans
          exact .cons (hhead _ _ h h') (ih htail hrest)

theorem equalBy_trans (hnum : ∀ l m n, num l m = true → num m n = true → num l n = true)
    {u v w : Json} (huv : equalBy num u v = true) (hvw : equalBy num v w = true) :
    equalBy num u w = true := by
  induction u using inductionOnParts generalizing v w with
  | array items ih =>
      cases v with
      | array others =>
          cases w with
          | array more =>
              rw [equalBy_array_iff] at huv hvw ⊢
              exact forall₂_trans (fun a ha b c => ih a ha) huv hvw
          | _ => simp [equalBy] at hvw
      | _ => simp [equalBy] at huv
  | object fields ih =>
      cases v with
      | object others =>
          cases w with
          | object more =>
              rw [equalBy, Bool.and_eq_true, beq_iff_eq, equalFieldsBy_iff] at huv hvw ⊢
              refine ⟨huv.1.trans hvw.1, fun e he => ?_⟩
              obtain ⟨b, hb, heb⟩ := huv.2 e he
              obtain ⟨c, hc, hbc⟩ := hvw.2 _ (Dict.mem_of_get? hb)
              exact ⟨c, hc, ih e he heb hbc⟩
          | _ => simp [equalBy] at hvw
      | _ => simp [equalBy] at huv
  | number l =>
      cases v with
      | number m =>
          cases w with
          | number n =>
              rw [equalBy] at huv hvw ⊢
              exact hnum l m n huv hvw
          | _ => simp [equalBy] at hvw
      | _ => simp [equalBy] at huv
  | null =>
      cases v with
      | null => exact hvw
      | _ => simp [equalBy] at huv
  | bool b =>
      cases v with
      | bool c =>
          rw [equalBy, beq_iff_eq] at huv
          rwa [huv]
      | _ => simp [equalBy] at huv
  | string s =>
      cases v with
      | string t =>
          rw [equalBy, beq_iff_eq] at huv
          rwa [huv]
      | _ => simp [equalBy] at huv

/-! ### Numbers by value -/

/-- Every value is equal to itself. -/
theorem sameValue_refl {v : Json} (hv : WellFormed v) : v.sameValue v = true :=
  equalBy_refl Number.sameValue_refl hv

theorem sameValue_symm {u v : Json} (hu : WellFormed u) (hv : WellFormed v)
    (h : u.sameValue v = true) : v.sameValue u = true :=
  equalBy_symm (fun _ _ => Number.sameValue_symm) hu hv h

theorem sameValue_trans {u v w : Json} (huv : u.sameValue v = true) (hvw : v.sameValue w = true) :
    u.sameValue w = true := by
  have hnum : ∀ l m n : Number, l.sameValue m = true → m.sameValue n = true →
      l.sameValue n = true := fun _ _ _ => Number.sameValue_trans
  exact equalBy_trans hnum huv hvw

/-- Objects are equal to themselves in another order. -/
theorem sameValue_of_perm {fields fields' : Dict Json} (h : WellFormed (.object fields))
    (hperm : fields.Perm fields') : (Json.object fields).sameValue (.object fields') = true := by
  obtain ⟨hnodup, hfields⟩ := wellFormed_object_iff.mp h
  have hnodup' : Dict.KeysNodup fields' := (hperm.map Prod.fst).nodup_iff.mp hnodup
  refine (equalBy_object_iff hnodup hnodup').mpr fun key => ?_
  rw [← Dict.UpToOrder.of_perm hnodup hperm key]
  exact (equalBy_object_iff hnodup hnodup).mp (sameValue_refl h) key

end Json

end JsonExpr
