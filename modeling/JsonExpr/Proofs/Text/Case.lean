import JsonExpr.Text.Case
import JsonExpr.Text.Letter
import Mathlib.Data.List.Chain
import Mathlib.Tactic.MkIffOfInductiveProp

/-!
# What the tables of characters have in common

The case mappings and the sets of letters come from tables of thousands of characters, and some of
what they have in common cannot be read off their definitions: that what letters map to are letters,
or that no character is both lower and upper case.  Looking up one character after another would
take too long to check.  The tables are compared span by span instead, two of them in one walk.

Main definitions:

* `JsonExpr.Text.Boundaries.spans` — a set given by its boundaries, as spans of code points;
* `JsonExpr.Text.CaseRun.spans` — what a run maps, as spans of code points;
* `JsonExpr.Text.Span.allIn` — whether spans lie in other spans;
* `JsonExpr.Text.TablesAgree` — what the tables have in common.

Main results:

* `JsonExpr.Text.has_of_allIn`, `JsonExpr.Text.not_has_of_allIn` — sets compared by spans;
* `JsonExpr.Text.tablesAgree` — **the tables agree**;
* `JsonExpr.Text.exists_lowerIn`, `JsonExpr.Text.exists_upperChar` — **letters and numbers map to
  texts that start with one**;
* `JsonExpr.Text.lowerIn_of_head`, `JsonExpr.Text.lowerIn_upperChar_of_head` — a mapping that starts
  with the character itself does not change it, and two that lead back to it give no more;
* `JsonExpr.Text.lowerIn_of_isLower` — what is in lower case stays as it is.
-/

set_option autoImplicit false

namespace JsonExpr.Text

/-! ### Spans -/

/-- A first code point, and the one behind the last. -/
abbrev Span := Nat × Nat

namespace Span

variable {s : Span} {all ahead found spans : List Span}

/-- The spans from the one in which `s` lies on, past those that end before. -/
def holder? (s : Span) : List Span → Option (List Span)
  | [] => none
  -- `Nat.ble` is computed in one step, unlike a decision of `≤`
  | t :: rest =>
    bif s.2.ble t.2 then bif t.1.ble s.1 then some (t :: rest) else none
    else s.holder? rest

/-- Whether all spans of a list lie in spans of another one. -/
def allIn (all : List Span) (spans : List Span) : Bool := go all spans
where
  /-- Looks for the spans ahead of the last find, and among all of them only where that fails. -/
  go (ahead : List Span) : List Span → Bool
    | [] => true
    | s :: spans =>
      match (s.holder? ahead).or (s.holder? all) with
      | none => false
      | some found => go found spans

theorem of_holder? (h : s.holder? spans = some found) :
    found ⊆ spans ∧ ∃ t ∈ found, t.1 ≤ s.1 ∧ s.2 ≤ t.2 := by
  induction spans with
  | nil => cases h
  | cons t rest ih =>
      rw [holder?] at h
      cases hright : s.2.ble t.2 with
      | false =>
          rw [hright, cond_false] at h
          exact (ih h).imp_left fun hsubset => List.subset_cons_of_subset t hsubset
      | true =>
          rw [hright, cond_true] at h
          cases hleft : t.1.ble s.1 with
          | false =>
              rw [hleft, cond_false] at h
              cases h
          | true =>
              rw [hleft, cond_true] at h
              obtain rfl := Option.some.inj h
              exact ⟨List.Subset.refl _, t, List.mem_cons_self, Nat.le_of_ble_eq_true hleft,
                Nat.le_of_ble_eq_true hright⟩

theorem exists_of_go (hahead : ahead ⊆ all) (h : allIn.go all ahead spans = true) :
    ∀ s ∈ spans, ∃ t ∈ all, t.1 ≤ s.1 ∧ s.2 ≤ t.2 := by
  induction spans generalizing ahead with
  | nil =>
      intro s hs
      cases hs
  | cons s spans ih =>
      rw [allIn.go] at h
      split at h
      · cases h
      · next found hfound =>
        obtain ⟨hsubset, t, ht, hin⟩ : found ⊆ all ∧ ∃ t ∈ found, t.1 ≤ s.1 ∧ s.2 ≤ t.2 := by
          rcases Option.or_eq_some_iff.mp hfound with hfound | ⟨-, hfound⟩
          · exact (of_holder? hfound).imp_left fun h => List.Subset.trans h hahead
          · exact of_holder? hfound
        exact List.forall_mem_cons.mpr ⟨⟨t, hsubset ht, hin⟩, ih hsubset h⟩

theorem exists_of_allIn (h : allIn all spans = true) :
    ∀ s ∈ spans, ∃ t ∈ all, t.1 ≤ s.1 ∧ s.2 ≤ t.2 :=
  exists_of_go (List.Subset.refl all) h

end Span

/-! ### Spans of sets -/

/-- The spans of a set. -/
def Boundaries.spans : Boundaries → List Span
  | [] => []
  | [b] => [(b, 0x110000)]
  | b :: e :: rest => (b, e) :: spans rest

section Sets

variable {bounds : Boundaries} {spans : List Span} {s : Span} {c : Char} {n : Nat}

theorem toNat_lt (c : Char) : c.toNat < 0x110000 := by
  rcases c.valid with hbefore | hbehind
  · exact Nat.lt_trans hbefore (by decide)
  · exact hbehind.2

theorem exists_span (hn : n < 0x110000) (h : within n false bounds = true) :
    ∃ s ∈ bounds.spans, s.1 ≤ n ∧ n < s.2 := by
  fun_induction Boundaries.spans bounds with
  | case1 => cases h
  | case2 b =>
      by_cases hb : n < b
      · rw [within, if_pos hb] at h
        cases h
      · exact ⟨_, List.mem_singleton_self _, Nat.le_of_not_lt hb, hn⟩
  | case3 b e rest ih =>
      by_cases hb : n < b
      · rw [within, if_pos hb] at h
        cases h
      · by_cases he : n < e
        · exact ⟨_, List.mem_cons_self, Nat.le_of_not_lt hb, he⟩
        · rw [within, if_neg hb, within, if_neg he] at h
          obtain ⟨s, hs, hin⟩ := ih h
          exact ⟨s, List.mem_cons_of_mem _ hs, hin⟩

theorem fst_mem_of_mem_spans (hs : s ∈ bounds.spans) : s.1 ∈ bounds := by
  fun_induction Boundaries.spans bounds with
  | case1 => cases hs
  | case2 b =>
      rw [List.mem_singleton.mp hs]
      exact List.mem_singleton_self b
  | case3 b e rest ih =>
      rcases List.mem_cons.mp hs with rfl | hs
      · exact List.mem_cons_self
      · exact List.mem_cons_of_mem _ (List.mem_cons_of_mem _ (ih hs))

/-- What is in a span of a set is in the set, if its boundaries increase. -/
theorem within_of_mem_spans (hinc : bounds.IsChain (· < ·)) (hs : s ∈ bounds.spans)
    (hfirst : s.1 ≤ n) (hlast : n < s.2) : within n false bounds = true := by
  rw [List.isChain_iff_pairwise] at hinc
  fun_induction Boundaries.spans bounds with
  | case1 => cases hs
  | case2 b =>
      obtain rfl := List.mem_singleton.mp hs
      rw [within, if_neg (Nat.not_lt.mpr hfirst)]
      rfl
  | case3 b e rest ih =>
      obtain ⟨hb, hinc⟩ := List.pairwise_cons.mp hinc
      obtain ⟨he, hinc⟩ := List.pairwise_cons.mp hinc
      rcases List.mem_cons.mp hs with rfl | hs
      · rw [within, if_neg (Nat.not_lt.mpr hfirst), within, if_pos hlast]
        rfl
      · have hn : e ≤ n := Nat.le_trans (Nat.le_of_lt (he s.1 (fst_mem_of_mem_spans hs))) hfirst
        have hbn : b ≤ n := Nat.le_trans (Nat.le_of_lt (hb e List.mem_cons_self)) hn
        rw [within, if_neg (Nat.not_lt.mpr hbn), within, if_neg (Nat.not_lt.mpr hn)]
        exact ih hinc hs

theorem within_not (n : Nat) (bounds : Boundaries) :
    ∀ inside, within n (!inside) bounds = !within n inside bounds := by
  induction bounds with
  | nil => exact fun inside => rfl
  | cons b rest ih =>
      intro inside
      rw [within, within]
      split
      · rfl
      · exact ih (!inside)

/-- Spans in those of a set are part of it. -/
theorem has_of_allIn (hinc : bounds.IsChain (· < ·)) (h : Span.allIn bounds.spans spans = true)
    (hs : s ∈ spans) (hfirst : s.1 ≤ c.toNat) (hlast : c.toNat < s.2) : bounds.has c = true := by
  obtain ⟨t, ht, hleft, hright⟩ := Span.exists_of_allIn h s hs
  exact within_of_mem_spans hinc ht (Nat.le_trans hleft hfirst) (Nat.lt_of_lt_of_le hlast hright)

/-- Spans in those of the complement of a set have no character in common with it. -/
theorem not_has_of_allIn (hinc : (0 :: bounds).IsChain (· < ·))
    (h : Span.allIn (Boundaries.spans (0 :: bounds)) spans = true) (hs : s ∈ spans)
    (hfirst : s.1 ≤ c.toNat) (hlast : c.toNat < s.2) : bounds.has c = false := by
  have hout : within c.toNat (!false) bounds = true := has_of_allIn hinc h hs hfirst hlast
  rwa [within_not, Bool.not_eq_true'] at hout

end Sets

/-! ### Runs -/

namespace CaseRun

variable {r : CaseRun} {n m : Nat}

/-- The spans of code points that a run maps. -/
def spans (r : CaseRun) : List Span :=
  if r.step = 1 then [(r.first, r.last + 1)]
  else (List.range' r.first ((r.last - r.first) / r.step + 1) r.step).map fun n => (n, n + 1)

/-- The spans of their images. -/
def imageSpans (r : CaseRun) : List Span := r.spans.map fun s => (r.image s.1, r.image s.2)

theorem image_mono (h : n ≤ m) : r.image n ≤ r.image m := by
  unfold image
  omega

theorem image_lt (hpos : 0 < r.image n) (h : n < m) : r.image n < r.image m := by
  unfold image at *
  omega

theorem bounds_of_covers (h : r.covers n = true) : r.first ≤ n ∧ n ≤ r.last := by
  simp only [covers, Bool.and_eq_true, decide_eq_true_eq] at h
  exact h.1

theorem mem_range_of_covers (h : r.covers n = true) :
    n ∈ List.range' r.first ((r.last - r.first) / r.step + 1) r.step := by
  obtain ⟨hfirst, hlast⟩ := bounds_of_covers h
  have hstep : r.step ∣ n - r.first := by
    simp only [covers, Bool.and_eq_true, beq_iff_eq] at h
    exact Nat.dvd_of_mod_eq_zero h.2
  have hindex : (n - r.first) / r.step ≤ (r.last - r.first) / r.step :=
    Nat.div_le_div_right (Nat.sub_le_sub_right hlast _)
  refine List.mem_range'.mpr ⟨(n - r.first) / r.step, Nat.lt_succ_of_le hindex, ?_⟩
  rw [Nat.mul_div_cancel' hstep, Nat.add_sub_cancel' hfirst]

theorem exists_span (h : r.covers n = true) : ∃ s ∈ r.spans, s.1 ≤ n ∧ n < s.2 := by
  obtain ⟨hfirst, hlast⟩ := bounds_of_covers h
  unfold spans
  split
  · exact ⟨_, List.mem_singleton_self _, hfirst, Nat.lt_succ_of_le hlast⟩
  · exact ⟨(n, n + 1), List.mem_map.mpr ⟨n, mem_range_of_covers h, rfl⟩, le_rfl, Nat.lt_add_one n⟩

theorem exists_imageSpan (h : r.covers n = true) (hpos : 0 < r.image n) :
    ∃ s ∈ r.imageSpans, s.1 ≤ r.image n ∧ r.image n < s.2 := by
  obtain ⟨s, hs, hfirst, hlast⟩ := exists_span h
  exact ⟨_, List.mem_map.mpr ⟨s, hs, rfl⟩, image_mono hfirst, image_lt hpos hlast⟩

/-- The images of a run are characters behind the ASCII digits, and no surrogates. -/
def imagesValid (r : CaseRun) : Bool :=
  decide (57 < r.image r.first) && (decide (r.image r.last < 0xD800) ||
    (decide (0xDFFF < r.image r.first) && decide (r.image r.last < 0x110000)))

theorem lt_image (hvalid : r.imagesValid = true) (h : r.covers n = true) : 57 < r.image n := by
  simp only [imagesValid, Bool.and_eq_true, decide_eq_true_eq] at hvalid
  exact Nat.lt_of_lt_of_le hvalid.1 (image_mono (bounds_of_covers h).1)

theorem toNat_image (hvalid : r.imagesValid = true) (h : r.covers n = true) :
    (Char.ofNat (r.image n)).toNat = r.image n := by
  obtain ⟨hfirst, hlast⟩ := bounds_of_covers h
  have hlow := image_mono (r := r) hfirst
  have hhigh := image_mono (r := r) hlast
  have hchar : (r.image n).isValidChar := by
    simp only [imagesValid, Bool.or_eq_true, Bool.and_eq_true, decide_eq_true_eq] at hvalid
    rcases hvalid.2 with hbefore | hbehind
    · exact .inl (Nat.lt_of_le_of_lt hhigh hbefore)
    · exact .inr ⟨Nat.lt_of_lt_of_le hbehind.1 hlow, Nat.lt_of_le_of_lt hhigh hbehind.2⟩
  rw [Char.ofNat, dif_pos hchar]
  rfl

end CaseRun

section Tables

variable {bounds : Boundaries} {c : Char} {n : Nat}

/-- Runs map nothing in a set if their spans lie outside. -/
theorem not_has_of_covers {runs : List CaseRun} (hinc : (0 :: bounds).IsChain (· < ·))
    (h : Span.allIn (Boundaries.spans (0 :: bounds)) (runs.flatMap CaseRun.spans) = true)
    {r : CaseRun} (hr : r ∈ runs) (hc : r.covers c.toNat = true) : bounds.has c = false := by
  obtain ⟨s, hs, hfirst, hlast⟩ := CaseRun.exists_span hc
  exact not_has_of_allIn hinc h (List.mem_flatMap.mpr ⟨r, hr, hs⟩) hfirst hlast

/-- The images of runs are in a set if their spans are. -/
theorem has_of_imageSpans {runs : List CaseRun} (hvalid : ∀ r ∈ runs, r.imagesValid = true)
    (hinc : bounds.IsChain (· < ·))
    (h : Span.allIn bounds.spans (runs.flatMap CaseRun.imageSpans) = true) {r : CaseRun}
    (hr : r ∈ runs) (hn : r.covers n = true) : bounds.has (Char.ofNat (r.image n)) = true := by
  have hpos := Nat.zero_lt_of_lt (CaseRun.lt_image (hvalid r hr) hn)
  obtain ⟨s, hs, hfirst, hlast⟩ := CaseRun.exists_imageSpan hn hpos
  rw [← CaseRun.toNat_image (hvalid r hr) hn] at hfirst hlast
  exact has_of_allIn hinc h (List.mem_flatMap.mpr ⟨r, hr, hs⟩) hfirst hlast

/-! ### The tables -/

/-- What the walks through the tables show. -/
@[mk_iff]
structure TablesAgree : Prop where
  /-- Boundaries increase. -/
  alphabetic_increase : LetterTable.alphabetic.IsChain (· < ·)
  lowercase_increase : (0 :: LetterTable.lowercase).IsChain (· < ·)
  uppercase_increase : (0 :: LetterTable.uppercase).IsChain (· < ·)
  /-- What has case is a letter. -/
  lowercase_alphabetic :
    Span.allIn LetterTable.alphabetic.spans LetterTable.lowercase.spans = true
  uppercase_alphabetic :
    Span.allIn LetterTable.alphabetic.spans LetterTable.uppercase.spans = true
  /-- Runs map to letters. -/
  lowerImages_alphabetic : Span.allIn LetterTable.alphabetic.spans
    (CaseTable.toLower.flatMap CaseRun.imageSpans) = true
  upperImages_alphabetic : Span.allIn LetterTable.alphabetic.spans
    (CaseTable.toUpper.flatMap CaseRun.imageSpans) = true
  /-- Nothing in lower case is in upper case, or mapped to lower case. -/
  lowercase_not_uppercase : Span.allIn (Boundaries.spans (0 :: LetterTable.uppercase))
    LetterTable.lowercase.spans = true
  toLower_not_lowercase : Span.allIn (Boundaries.spans (0 :: LetterTable.lowercase))
    (CaseTable.toLower.flatMap CaseRun.spans) = true
  /-- Runs map to characters. -/
  lowerImages_valid : ∀ r ∈ CaseTable.toLower, r.imagesValid = true
  upperImages_valid : ∀ r ∈ CaseTable.toUpper, r.imagesValid = true

instance : Decidable TablesAgree := decidable_of_iff _ (tablesAgree_iff).symm

theorem tablesAgree : TablesAgree := by decide +kernel

theorem isAlphanumeric_of_alphabetic (h : LetterTable.alphabetic.has c = true) :
    isAlphanumeric c = true :=
  Bool.or_eq_true_iff.mpr (.inl h)

theorem isAlphanumeric_of_isLower (h : isLower c = true) : isAlphanumeric c = true := by
  obtain ⟨s, hs, hfirst, hlast⟩ := exists_span (toNat_lt c) h
  exact isAlphanumeric_of_alphabetic (has_of_allIn (tablesAgree).alphabetic_increase
    (tablesAgree).lowercase_alphabetic hs hfirst hlast)

theorem isAlphanumeric_of_isUpper (h : isUpper c = true) : isAlphanumeric c = true := by
  obtain ⟨s, hs, hfirst, hlast⟩ := exists_span (toNat_lt c) h
  exact isAlphanumeric_of_alphabetic (has_of_allIn (tablesAgree).alphabetic_increase
    (tablesAgree).uppercase_alphabetic hs hfirst hlast)

/-- No character is both lower and upper case. -/
theorem isUpper_of_isLower (h : isLower c = true) : isUpper c = false := by
  obtain ⟨s, hs, hfirst, hlast⟩ := exists_span (toNat_lt c) h
  exact not_has_of_allIn (tablesAgree).uppercase_increase (tablesAgree).lowercase_not_uppercase hs
    hfirst hlast

theorem isAlphanumeric_lowerImage {r : CaseRun} (hr : r ∈ CaseTable.toLower)
    (hn : r.covers n = true) : isAlphanumeric (Char.ofNat (r.image n)) = true :=
  isAlphanumeric_of_alphabetic (has_of_imageSpans (tablesAgree).lowerImages_valid
    (tablesAgree).alphabetic_increase (tablesAgree).lowerImages_alphabetic hr hn)

theorem isAlphanumeric_upperImage {r : CaseRun} (hr : r ∈ CaseTable.toUpper)
    (hn : r.covers n = true) : isAlphanumeric (Char.ofNat (r.image n)) = true :=
  isAlphanumeric_of_alphabetic (has_of_imageSpans (tablesAgree).upperImages_valid
    (tablesAgree).alphabetic_increase (tablesAgree).upperImages_alphabetic hr hn)

theorem isLower_of_covers {r : CaseRun} (hr : r ∈ CaseTable.toLower)
    (hc : r.covers c.toNat = true) : isLower c = false :=
  not_has_of_covers (tablesAgree).lowercase_increase (tablesAgree).toLower_not_lowercase hr hc

end Tables

/-! ### Mappings -/

section Mappings

variable {long : List (Nat × List Nat)} {runs : List CaseRun} {c : Char}

/-- A character is mapped by a table of long mappings, by a run, or not at all. -/
theorem mapByTables_cases (long : List (Nat × List Nat)) (runs : List CaseRun) (c : Char) :
    (∃ e ∈ long, c = Char.ofNat e.1 ∧ mapByTables long runs c = e.2.map Char.ofNat) ∨
      (∃ r ∈ runs, r.covers c.toNat = true ∧
        mapByTables long runs c = [Char.ofNat (r.image c.toNat)]) ∨
      mapByTables long runs c = [c] := by
  unfold mapByTables
  split
  · next image himage =>
    obtain ⟨before, after, hlong, -⟩ := List.lookup_eq_some_iff.mp himage
    refine .inl ⟨(c.toNat, image), ?_, (Char.ofNat_toNat c).symm, rfl⟩
    rw [hlong]
    exact List.mem_append_right _ List.mem_cons_self
  · unfold mapByRuns
    split
    · next r hr =>
      have hcovers := List.find?_some (p := fun r : CaseRun => r.covers c.toNat) hr
      exact .inr (.inl ⟨r, List.mem_of_find?_eq_some hr, hcovers, rfl⟩)
    · exact .inr (.inr rfl)

/-- A letter or number maps to a text that starts with one, if this holds of what is listed. -/
theorem exists_mapByTables
    (hlong : ∀ e ∈ long, (e.2.map Char.ofNat).head?.any isAlphanumeric = true)
    (hruns : ∀ r ∈ runs, ∀ n, r.covers n = true → isAlphanumeric (Char.ofNat (r.image n)) = true)
    (hc : isAlphanumeric c = true) :
    ∃ a as, mapByTables long runs c = a :: as ∧ isAlphanumeric a = true := by
  rcases mapByTables_cases long runs c with ⟨e, he, -, hmap⟩ | ⟨r, hr, hn, hmap⟩ | hmap
  · have hhead := hlong e he
    rw [← hmap] at hhead
    cases hlist : mapByTables long runs c with
    | nil =>
        rw [hlist] at hhead
        cases hhead
    | cons a as =>
        rw [hlist] at hhead
        exact ⟨a, as, rfl, hhead⟩
  · exact ⟨_, [], hmap, hruns r hr _ hn⟩
  · exact ⟨_, [], hmap, hc⟩

/-- A mapping that starts with the character itself does not change it, if that holds of the long
mappings. -/
theorem mapByTables_of_head
    (hlong : ∀ e ∈ long, (e.2.map Char.ofNat).head? ≠ some (Char.ofNat e.1)) {as : List Char}
    (h : mapByTables long runs c = c :: as) : as = [] := by
  rcases mapByTables_cases long runs c with ⟨e, he, hself, hmap⟩ | ⟨r, -, -, hmap⟩ | hmap
  · refine absurd ?_ (hlong e he)
    rw [← hmap, ← hself, h]
    rfl
  · exact (List.cons.inj (h.symm.trans hmap)).2
  · exact (List.cons.inj (h.symm.trans hmap)).2

end Mappings

/-! ### Lower and upper case -/

section LowerUpper

variable {before after : List Char} {c a : Char} {as : List Char}

theorem sigma_facts : lowerChar capitalSigma = ['σ'] ∧ isLower capitalSigma = false ∧
    isAlphanumeric 'ς' = true := by
  decide +kernel

/-- What is mapped to a longer text in lower case. -/
theorem toLowerLong_facts : ∀ e ∈ CaseTable.toLowerLong,
    (e.2.map Char.ofNat).head?.any isAlphanumeric = true ∧
      (e.2.map Char.ofNat).head? ≠ some (Char.ofNat e.1) ∧ isLower (Char.ofNat e.1) = false ∧
      ((e.2.map Char.ofNat).head?.all fun a =>
        decide ((upperChar a).head? ≠ some (Char.ofNat e.1)) && !a.isDigit) = true := by
  decide +kernel

/-- What is mapped to a longer text in upper case. -/
theorem toUpperLong_facts : ∀ e ∈ CaseTable.toUpperLong,
    (e.2.map Char.ofNat).head?.any isAlphanumeric = true ∧ Char.ofNat e.1 ≠ 'ς' ∧
      ((e.2.map Char.ofNat).head?.all fun c =>
        decide ((lowerChar c).head? ≠ some (Char.ofNat e.1))) = true := by
  decide +kernel

/-- Only the capital sigma has a lower case that depends on where it stands. -/
theorem lowerIn_cases (before : List Char) (c : Char) (after : List Char) :
    lowerIn before c after = lowerChar c ∨
      c = capitalSigma ∧ lowerIn before c after = ['ς'] := by
  unfold lowerIn
  split
  · next h =>
    subst h
    split
    · exact .inr ⟨rfl, rfl⟩
    · exact .inl sigma_facts.1.symm
  · exact .inl rfl

/-- **In lower case, letters and numbers start with one.** -/
theorem exists_lowerIn (before after : List Char) (hc : isAlphanumeric c = true) :
    ∃ a as, lowerIn before c after = a :: as ∧ isAlphanumeric a = true := by
  rcases lowerIn_cases before c after with h | ⟨-, h⟩
  · rw [h]
    exact exists_mapByTables (fun e he => (toLowerLong_facts e he).1)
      (fun _ hr _ => isAlphanumeric_lowerImage hr) hc
  · exact ⟨_, _, h, sigma_facts.2.2⟩

/-- **In upper case, letters and numbers start with one.** -/
theorem exists_upperChar (hc : isAlphanumeric c = true) :
    ∃ a as, upperChar c = a :: as ∧ isAlphanumeric a = true :=
  exists_mapByTables (fun e he => (toUpperLong_facts e he).1)
    (fun _ hr _ => isAlphanumeric_upperImage hr) hc

theorem lowerIn_of_head (h : lowerIn before c after = c :: as) : as = [] := by
  rcases lowerIn_cases before c after with hmap | ⟨-, hmap⟩
  · exact mapByTables_of_head (fun e he => (toLowerLong_facts e he).2.1) (hmap.symm.trans h)
  · exact (List.cons.inj (h.symm.trans hmap)).2

/-- What is in lower case stays as it is. -/
theorem lowerIn_of_isLower (before after : List Char) (h : isLower c = true) :
    lowerIn before c after = [c] := by
  rcases lowerIn_cases before c after with hmap | ⟨rfl, -⟩
  · rw [hmap]
    rcases mapByTables_cases CaseTable.toLowerLong CaseTable.toLower c with
      ⟨e, he, rfl, -⟩ | ⟨r, hr, hn, -⟩ | hself
    · exact absurd ((toLowerLong_facts e he).2.2.1.symm.trans h) Bool.false_ne_true
    · exact absurd ((isLower_of_covers hr hn).symm.trans h) Bool.false_ne_true
    · exact hself
  · exact absurd (sigma_facts.2.1.symm.trans h) Bool.false_ne_true

/-- If the capital of what a character becomes in lower case starts with that character, then
neither mapping gives more than one. -/
theorem lowerIn_upperChar_of_head {us : List Char} (hlower : lowerIn before c after = a :: as)
    (hupper : upperChar a = c :: us) : as = [] ∧ us = [] := by
  constructor
  · rcases lowerIn_cases before c after with hmap | ⟨-, hmap⟩
    · rw [hmap] at hlower
      rcases mapByTables_cases CaseTable.toLowerLong CaseTable.toLower c with
        ⟨e, he, rfl, hlist⟩ | ⟨r, -, -, hlist⟩ | hlist
      · have hhead : (e.2.map Char.ofNat).head? = some a := by
          rw [← hlist]
          exact congrArg List.head? hlower
        have hback := (toLowerLong_facts e he).2.2.2
        rw [hhead, Option.all_some, Bool.and_eq_true, decide_eq_true_eq] at hback
        refine absurd ?_ hback.1
        rw [hupper]
        rfl
      · exact (List.cons.inj (hlower.symm.trans hlist)).2
      · exact (List.cons.inj (hlower.symm.trans hlist)).2
    · exact (List.cons.inj (hlower.symm.trans hmap)).2
  · rcases mapByTables_cases CaseTable.toUpperLong CaseTable.toUpper a with
      ⟨e, he, rfl, hlist⟩ | ⟨r, -, -, hlist⟩ | hlist
    · obtain ⟨-, hfinal, hback⟩ := toUpperLong_facts e he
      have hhead : (e.2.map Char.ofNat).head? = some c := by
        rw [← hlist]
        exact congrArg List.head? hupper
      rw [hhead, Option.all_some, decide_eq_true_eq] at hback
      rcases lowerIn_cases before c after with hmap | ⟨-, hmap⟩
      · refine absurd ?_ hback
        rw [← hmap, hlower]
        rfl
      · exact absurd (List.cons.inj (hlower.symm.trans hmap)).1 hfinal
    · exact (List.cons.inj (hupper.symm.trans hlist)).2
    · exact (List.cons.inj (hupper.symm.trans hlist)).2

/-! ### Digits -/

theorem toNat_lt_of_isDigit (h : c.isDigit = true) : c.toNat < 58 := by
  simp only [Char.isDigit, Bool.and_eq_true, decide_eq_true_eq] at h
  exact Nat.lt_succ_of_le (UInt32.le_iff_toNat_le.mp h.2)

theorem digit_table : ∀ n < 58, (Char.ofNat n).isDigit = true → let c := Char.ofNat n
    isAlphanumeric c = true ∧ isUpper c = false ∧ isLower c = false ∧ upperChar c = [c] ∧
      c ≠ capitalSigma ∧ lowerChar c = [c] := by
  decide +kernel

/-- An ASCII digit is a number without case. -/
theorem digit_facts (h : c.isDigit = true) :
    isAlphanumeric c = true ∧ isUpper c = false ∧ isLower c = false ∧ upperChar c = [c] ∧
      c ≠ capitalSigma ∧ lowerChar c = [c] := by
  have htable := digit_table c.toNat (toNat_lt_of_isDigit h)
  rw [Char.ofNat_toNat] at htable
  exact htable h

theorem lowerIn_of_isDigit (before after : List Char) (h : c.isDigit = true) :
    lowerIn before c after = [c] := by
  obtain ⟨-, -, -, -, hsigma, hmap⟩ := digit_facts h
  rw [lowerIn, if_neg hsigma, hmap]

/-- Only a digit is a digit in lower case. -/
theorem eq_of_lowerIn_digit (h : lowerIn before c after = a :: as) (ha : a.isDigit = true) :
    a = c := by
  rcases lowerIn_cases before c after with hmap | ⟨-, hmap⟩
  · rw [hmap] at h
    rcases mapByTables_cases CaseTable.toLowerLong CaseTable.toLower c with
      ⟨e, he, -, hlist⟩ | ⟨r, hr, hn, hlist⟩ | hlist
    · have hhead : (e.2.map Char.ofNat).head? = some a := by
        rw [← hlist]
        exact congrArg List.head? h
      have hdigit := (toLowerLong_facts e he).2.2.2
      rw [hhead, Option.all_some, Bool.and_eq_true, ha] at hdigit
      cases hdigit.2
    · obtain ⟨rfl, -⟩ := List.cons.inj (h.symm.trans hlist)
      have hvalid := (tablesAgree).lowerImages_valid r hr
      have hlow := CaseRun.lt_image hvalid hn
      rw [← CaseRun.toNat_image hvalid hn] at hlow
      exact absurd (toNat_lt_of_isDigit ha) (Nat.not_lt.mpr hlow)
    · exact (List.cons.inj (h.symm.trans hlist)).1
  · obtain ⟨rfl, -⟩ := List.cons.inj (h.symm.trans hmap)
    cases ha

end LowerUpper

end JsonExpr.Text
