import JsonExpr.Proofs.Json.Extent
import JsonExpr.Proofs.Json.RoundTrip
import JsonExpr.Proofs.Shorthand.Expansion

/-!
# Arguments are found again

Texts that are put between the brackets of a call string, with commas between them, are found again
as its arguments.  A comma inside of one of the texts does not cut it, as long as it stands in
brackets or between quotation marks, and the text closes what it opens.  The compact text of a value
does, and so does a call string whose arguments do.

The reader that finds the end of an object counts brackets as well, but minds neither commas nor
round brackets nor single quotes.  So that a text is balanced for it does not help here.

Main definitions:

* `JsonExpr.Shorthand.Passes` — texts that are read without a cut;
* `JsonExpr.Shorthand.PassesFrom` — texts that are read without a cut within so many brackets;
* `JsonExpr.Shorthand.Trimmed` — texts without white space at their ends;
* `JsonExpr.Shorthand.Argument` — texts that are found again;
* `JsonExpr.Shorthand.callText` — the text of a call.

Main results:

* `JsonExpr.Shorthand.argument_render` — the texts of values are found again;
* `JsonExpr.Shorthand.splitArguments_padded` — whatever white space stands around them, the texts
  are found again;
* `JsonExpr.Shorthand.splitArguments_joinWith`, `JsonExpr.Shorthand.call?_callText` — **the arguments
  of a call string are the texts that it was made of**.
-/

set_option autoImplicit false

namespace JsonExpr.Shorthand

open Json (Legible render quote escape)

/-! ### Texts without a cut -/

/-- A text that takes what is open from `n` to `m` and is not cut at any of its commas. -/
inductive Passes : Nesting → List Char → Nesting → Prop where
  | nil {n : Nesting} : Passes n [] n
  | cons {n m : Nesting} {c : Char} {text : List Char} : ¬ (c = ',' ∧ n.isTop = true) →
      Passes (n.next c) text m → Passes n (c :: text) m

theorem Passes.append {n m k : Nesting} {first second : List Char} (h₁ : Passes n first m)
    (h₂ : Passes m second k) : Passes n (first ++ second) k := by
  induction h₁ with
  | nil => exact h₂
  | cons hc _ ih => exact .cons hc (ih h₂)

/-- A text without a cut belongs to the first piece of what follows. -/
theorem Passes.splitTop_append {n m : Nesting} {text after piece : List Char}
    {pieces : List (List Char)} (h : Passes n text m) (hafter : splitTop m after = piece :: pieces) :
    splitTop n (text ++ after) = (text ++ piece) :: pieces := by
  induction h with
  | nil => exact hafter
  | cons hc _ ih =>
      rw [List.cons_append, splitTop, if_neg hc, ih hafter]
      rfl

/-- Between tokens, within so many brackets. -/
def Nesting.within (depth : Nat) : Nesting := ⟨depth, .none, false⟩

/-- Between double quotes, within so many brackets. -/
def Nesting.quoted (depth : Nat) : Nesting := ⟨depth, some '"', false⟩

/-- A text that, within at least so many brackets, closes what it opens and is not cut. -/
def PassesFrom (least : Nat) (text : List Char) : Prop :=
  ∀ depth, least ≤ depth → Passes (.within depth) text (.within depth)

/-- The characters that mean something between tokens. -/
def marks : List Char := [',', '"', '\'', '(', '[', '\x7b', ')', ']', '\x7d']

namespace PassesFrom

variable {least : Nat}

theorem nil : PassesFrom least [] := fun _ _ => .nil

theorem append {first second : List Char} (h₁ : PassesFrom least first)
    (h₂ : PassesFrom least second) : PassesFrom least (first ++ second) :=
  fun depth hle => (h₁ depth hle).append (h₂ depth hle)

theorem mono {text : List Char} {more : Nat} (h : PassesFrom least text) (hle : least ≤ more) :
    PassesFrom more text := fun depth hmore => h depth (Nat.le_trans hle hmore)

theorem cons {c : Char} {text : List Char} (hc : c ∉ marks) (h : PassesFrom least text) :
    PassesFrom least (c :: text) := by
  intro depth hle
  simp only [marks, List.mem_cons, List.not_mem_nil, or_false, not_or] at hc
  have hnext : (Nesting.within depth).next c = .within depth := by
    simp [Nesting.next, Nesting.within, hc]
  refine .cons (fun hcomma => hc.1 hcomma.1) ?_
  rw [hnext]
  exact h depth hle

/-- Characters that mean nothing. -/
theorem of_not_mem {text : List Char} (h : ∀ c ∈ text, c ∉ marks) : PassesFrom least text := by
  induction text with
  | nil => exact nil
  | cons c text ih =>
      exact cons (h c List.mem_cons_self) (ih fun c' hc' => h c' (List.mem_cons_of_mem c hc'))

/-- A word without commas, quotation marks and brackets. -/
theorem word {text : List Char} (h : (text.all fun c => decide (c ∉ marks)) = true) :
    PassesFrom least text :=
  of_not_mem fun c hc => of_decide_eq_true (List.all_eq_true.mp h c hc)

theorem blank {text : List Char} (h : ∀ c ∈ text, Text.isBlank c = true) :
    PassesFrom least text := by
  have hnone : (marks.all fun c => !Text.isBlank c) = true := by decide
  refine of_not_mem fun c hc hmark => ?_
  have hno := List.all_eq_true.mp hnone c hmark
  rw [h c hc] at hno
  exact Bool.false_ne_true hno

/-- Within brackets, a comma does not cut. -/
theorem comma {text : List Char} (h : PassesFrom 1 text) : PassesFrom 1 (',' :: text) := by
  intro depth hle
  refine .cons (fun hcut => ?_) (h depth hle)
  have hzero : depth = 0 := by simpa [Nesting.isTop, Nesting.within] using hcut.2
  omega

/-- Texts between brackets, with commas between them. -/
theorem joinWith {delimiter : List Char} (hdelimiter : PassesFrom 1 delimiter)
    {texts : List (List Char)} (h : ∀ text ∈ texts, PassesFrom 1 text) :
    PassesFrom 1 (Text.joinWith delimiter texts) := by
  unfold Text.joinWith
  induction texts with
  | nil => exact nil
  | cons first texts ih =>
      have hfirst := h first List.mem_cons_self
      cases texts with
      | nil => rwa [List.intercalate_singleton]
      | cons second texts =>
          rw [List.intercalate_cons_cons]
          exact (hfirst.append hdelimiter).append
            (ih fun text hmem => h text (List.mem_cons_of_mem first hmem))

/-- A text in brackets. -/
theorem bracket {opening closing : Char} {text : List Char}
    (ho : (opening, closing) ∈ [('(', ')'), ('[', ']'), ('\x7b', '\x7d')]) (h : PassesFrom 1 text) :
    PassesFrom least (opening :: (text ++ [closing])) := by
  intro depth _
  have hopen : (Nesting.within depth).next opening = .within (depth + 1) ∧ opening ≠ ',' := by
    simp only [List.mem_cons, List.not_mem_nil, or_false, Prod.mk.injEq] at ho
    rcases ho with ⟨rfl, -⟩ | ⟨rfl, -⟩ | ⟨rfl, -⟩ <;> simp [Nesting.next, Nesting.within]
  have hclose : (Nesting.within (depth + 1)).next closing = .within depth ∧ closing ≠ ',' := by
    simp only [List.mem_cons, List.not_mem_nil, or_false, Prod.mk.injEq] at ho
    rcases ho with ⟨-, rfl⟩ | ⟨-, rfl⟩ | ⟨-, rfl⟩ <;> simp [Nesting.next, Nesting.within]
  refine .cons (fun hcomma => hopen.2 hcomma.1) ?_
  rw [hopen.1]
  refine (h (depth + 1) (Nat.le_add_left 1 depth)).append ?_
  refine .cons (fun hcomma => hclose.2 hcomma.1) ?_
  rw [hclose.1]
  exact .nil

end PassesFrom

/-! ### The texts of values -/

/-- A character between double quotes that neither ends nor escapes anything. -/
theorem passes_quoted {c : Char} {depth : Nat} {text : List Char} {m : Nesting}
    (hc : c ≠ '"' ∧ c ≠ '\\') (h : Passes (.quoted depth) text m) :
    Passes (.quoted depth) (c :: text) m := by
  refine .cons (fun hcut => by simp [Nesting.isTop, Nesting.quoted] at hcut) ?_
  have hnext : (Nesting.quoted depth).next c = .quoted depth := by
    simp [Nesting.next, Nesting.quoted, hc]
  rwa [hnext]

/-- An escaped character between double quotes. -/
theorem passes_escaped (c : Char) {depth : Nat} {text : List Char} {m : Nesting}
    (h : Passes (.quoted depth) text m) : Passes (.quoted depth) ('\\' :: c :: text) m := by
  refine .cons (fun hcut => by simp [Nesting.isTop, Nesting.quoted] at hcut) ?_
  refine .cons (fun hcut => by simp [Nesting.isTop, Nesting.next, Nesting.quoted] at hcut) ?_
  have hnext : ((Nesting.quoted depth).next '\\').next c = .quoted depth := by
    simp [Nesting.next, Nesting.quoted]
  rwa [hnext]

theorem passes_escape (depth : Nat) (c : Char) :
    Passes (.quoted depth) (escape c) (.quoted depth) := by
  unfold escape
  split
  case h_8 hquote hbackslash _ _ _ _ _ =>
    split
    · refine passes_escaped 'u' (passes_quoted (by decide) (passes_quoted (by decide) ?_))
      exact passes_quoted (Json.hexDigit_ne _) (passes_quoted (Json.hexDigit_ne _) .nil)
    · exact passes_quoted ⟨fun h => hquote h, fun h => hbackslash h⟩ .nil
  all_goals exact passes_escaped _ .nil

theorem passes_escapes (depth : Nat) (s : List Char) :
    Passes (.quoted depth) (s.flatMap escape) (.quoted depth) := by
  induction s with
  | nil => exact .nil
  | cons c s ih =>
      rw [List.flatMap_cons]
      exact (passes_escape depth c).append ih

theorem passesFrom_quote (least : Nat) (s : String) : PassesFrom least (quote s) := by
  intro depth _
  have hopen : (Nesting.within depth).next '"' = .quoted depth := by
    simp [Nesting.next, Nesting.within, Nesting.quoted]
  have hclose : (Nesting.quoted depth).next '"' = .within depth := by
    simp [Nesting.next, Nesting.within, Nesting.quoted]
  rw [quote, List.cons_append]
  refine .cons (fun hcomma => absurd hcomma.1 (by decide)) ?_
  rw [hopen]
  refine (passes_escapes depth s.toList).append ?_
  refine .cons (fun hcomma => absurd hcomma.1 (by decide)) ?_
  rw [hclose]
  exact .nil

theorem not_mem_marks_of_isDigit {c : Char} (h : Decimal.isDigit c = true) : c ∉ marks := by
  have hnone : (marks.all fun c => !Decimal.isDigit c) = true := by decide
  intro hc
  have hno := List.all_eq_true.mp hnone c hc
  rw [h] at hno
  exact Bool.false_ne_true hno

theorem passesFrom_write_int (least : Nat) (i : Int) (fits : FitsWord i) :
    PassesFrom least (Number.int i fits).write.toList := by
  have hdigits : PassesFrom least (Nat.toDigits 10 i.natAbs) :=
    .of_not_mem fun c hc => not_mem_marks_of_isDigit (Json.isDigit_of_mem_toDigits hc)
  rw [Json.toList_write_int]
  split
  · exact hdigits.cons (by decide)
  · exact hdigits

/-- The text of a value closes what it opens, and its commas stand in brackets. -/
theorem passesFrom_render {n : Nat} {v : Json} (h : Legible n v) : PassesFrom 0 (render v) := by
  have hcomma : PassesFrom 1 [','] := .comma .nil
  induction h with
  | null => exact .word (by decide)
  | bool b => cases b <;> exact .word (by decide)
  | int i fits => exact passesFrom_write_int 0 i fits
  | string s => exact passesFrom_quote 0 s
  | @array n items h ih =>
      refine .bracket (by decide) (.joinWith hcomma ?_)
      rw [Json.renderItems_eq]
      exact List.forall_mem_map.mpr fun v hv => (ih v hv).mono (Nat.zero_le 1)
  | @object n fields hnodup h ih =>
      refine .bracket (by decide) (.joinWith hcomma ?_)
      rw [Json.renderFields_eq]
      refine List.forall_mem_map.mpr fun e he => ?_
      have hvalue : PassesFrom 1 (':' :: render e.2) :=
        .cons (by decide) ((ih e he).mono (Nat.zero_le 1))
      exact (passesFrom_quote 1 e.1).append hvalue

/-! ### White space at the ends -/

/-- A text that is not empty and has no white space at its ends. -/
structure Trimmed (text : List Char) : Prop where
  head : ∃ c more, text = c :: more ∧ Text.isBlank c = false
  last : ∃ more c, text = more ++ [c] ∧ Text.isBlank c = false

theorem Trimmed.of_forall {text : List Char} (hne : text ≠ [])
    (h : ∀ c ∈ text, Text.isBlank c = false) : Trimmed text where
  head := by
    obtain ⟨c, more, rfl⟩ := List.exists_cons_of_ne_nil hne
    exact ⟨c, more, rfl, h c List.mem_cons_self⟩
  last := ⟨text.dropLast, text.getLast hne, (List.dropLast_concat_getLast hne).symm,
    h _ (List.getLast_mem hne)⟩

/-- A word without white space. -/
theorem Trimmed.word {text : List Char} (hne : text ≠ [])
    (h : (text.all fun c => !Text.isBlank c) = true) : Trimmed text :=
  .of_forall hne fun c hc => (Bool.not_eq_true' _).mp (List.all_eq_true.mp h c hc)

/-- A text between two characters that are no white space. -/
theorem Trimmed.enclosed {opening closing : Char} (ho : Text.isBlank opening = false)
    (hc : Text.isBlank closing = false) (text : List Char) :
    Trimmed (opening :: (text ++ [closing])) :=
  ⟨⟨opening, _, rfl, ho⟩, ⟨opening :: text, closing, rfl, hc⟩⟩

theorem Trimmed.trim_eq {text : List Char} (h : Trimmed text) : Text.trim text = text := by
  obtain ⟨d, more, hd, hhead⟩ := h.head
  obtain ⟨init, c, hc, hlast⟩ := h.last
  have hleft : Text.trimLeft text = text := by
    rw [hd]
    exact List.dropWhile_cons_of_neg (Bool.eq_false_iff.mp hhead)
  rw [Text.trim, hleft, hc]
  exact Text.dropRight_concat hlast init

theorem trim_blank {c : Char} (hc : Text.isBlank c = true) (text : List Char) :
    Text.trim (c :: text) = Text.trim text := by
  rw [Text.trim, Text.trimLeft, Text.dropLeft, List.dropWhile_cons_of_pos hc]
  rfl

theorem isBlank_of_isDigit {c : Char} (h : Decimal.isDigit c = true) : Text.isBlank c = false := by
  rw [Json.isDigit_eq, Char.isDigit, Bool.and_eq_true, decide_eq_true_iff, decide_eq_true_iff] at h
  have hlow : 48 ≤ c.toNat := UInt32.le_iff_toNat_le.mp h.1
  have hhigh : c.toNat ≤ 57 := UInt32.le_iff_toNat_le.mp h.2
  simp only [Text.isBlank, Bool.or_eq_false_iff, Bool.and_eq_false_iff, decide_eq_false_iff_not,
    beq_eq_false_iff_ne]
  omega

theorem trimmed_write_int (i : Int) (fits : FitsWord i) :
    Trimmed (Number.int i fits).write.toList := by
  have hdigits : ∀ c ∈ Nat.toDigits 10 i.natAbs, Text.isBlank c = false :=
    fun c hc => isBlank_of_isDigit (Json.isDigit_of_mem_toDigits hc)
  rw [Json.toList_write_int]
  split
  · exact .of_forall (List.cons_ne_nil _ _) (List.forall_mem_cons.mpr ⟨by decide, hdigits⟩)
  · exact .of_forall Nat.toDigits_ne_nil hdigits

theorem trimmed_render {n : Nat} {v : Json} (h : Legible n v) : Trimmed (render v) := by
  cases h with
  | null => exact .word (by decide) (by decide)
  | bool b => cases b <;> exact .word (by decide) (by decide)
  | int i fits => exact trimmed_write_int i fits
  | string s => exact .enclosed (by decide) (by decide) _
  | array _ => exact .enclosed (by decide) (by decide) _
  | object _ _ => exact .enclosed (by decide) (by decide) _

/-! ### Arguments -/

/-- A text that is found again among arguments. -/
structure Argument (text : List Char) : Prop where
  passes : PassesFrom 0 text
  trimmed : Trimmed text

/-- **The texts of values are found again.** -/
theorem argument_render {n : Nat} {v : Json} (h : Legible n v) : Argument (render v) :=
  ⟨passesFrom_render h, trimmed_render h⟩

/-- Texts that close what they open are cut where they were joined. -/
theorem splitTop_joinWith {first : List Char} {texts : List (List Char)}
    (h : ∀ text ∈ first :: texts, PassesFrom 0 text) :
    splitTop .none (Text.joinWith [','] (first :: texts)) = first :: texts := by
  induction texts generalizing first with
  | nil =>
      have hfirst : Passes .none first .none := h first List.mem_cons_self 0 (Nat.le_refl 0)
      have hend : splitTop .none [] = [[]] := rfl
      have hpiece := hfirst.splitTop_append hend
      rw [List.append_nil] at hpiece
      rw [Json.joinWith_singleton, hpiece]
  | cons second texts ih =>
      have hfirst : Passes .none first .none := h first List.mem_cons_self 0 (Nat.le_refl 0)
      have hafter : splitTop .none (',' :: Text.joinWith [','] (second :: texts)) =
          [] :: second :: texts := by
        rw [splitTop, if_pos (by decide), ih fun text hmem => h text (List.mem_cons_of_mem _ hmem)]
      rw [Text.joinWith, List.intercalate_cons_cons, List.append_assoc, ← Text.joinWith,
        List.singleton_append, hfirst.splitTop_append hafter, List.append_nil]

theorem prefix_joinWith (delimiter first : List Char) (texts : List (List Char)) :
    first <+: Text.joinWith delimiter (first :: texts) := by
  cases texts with
  | nil => exact ⟨[], by rw [Text.joinWith, List.intercalate_singleton, List.append_nil]⟩
  | cons second texts =>
      rw [Text.joinWith, List.intercalate_cons_cons, List.append_assoc]
      exact List.prefix_append _ _

/-- **Arguments are found again**, if they close what they open, whatever white space stands around
them. -/
theorem splitArguments_padded {padded : List (List Char)}
    (h : ∀ text ∈ padded, Argument (Text.trim text)) :
    splitArguments (Text.joinWith [','] padded) = padded.map Text.trim := by
  have hpasses : ∀ text ∈ padded, PassesFrom 0 text := by
    intro text hmem
    obtain ⟨before, after, htext, hblank⟩ := (Text.trimmedTo_trim text).taken
    obtain ⟨hbefore, hafter⟩ := List.forall_mem_append.mp hblank
    rw [htext]
    exact ((PassesFrom.blank hbefore).append (h text hmem).passes).append (.blank hafter)
  cases padded with
  | nil => rfl
  | cons first texts =>
      have hblank : Text.allBlank (Text.joinWith [','] (first :: texts)) = false := by
        obtain ⟨c, more, htrim, hc⟩ := (h first List.mem_cons_self).trimmed.head
        obtain ⟨before, after, hfirst, -⟩ := (Text.trimmedTo_trim first).taken
        have hmem : c ∈ first := by rw [hfirst, htrim]; simp
        refine List.all_eq_false.mpr ⟨c, ?_, Bool.eq_false_iff.mp hc⟩
        exact (prefix_joinWith [','] first texts).subset hmem
      rw [splitArguments, hblank, if_neg Bool.false_ne_true, splitTop_joinWith hpasses]

/-- What stands between the arguments that calls are written with: the comma cuts, and the blank is
trimmed. -/
def delimiter : List Char := [',', ' ']

theorem joinWith_delimiter (first : List Char) (texts : List (List Char)) :
    Text.joinWith delimiter (first :: texts) =
      Text.joinWith [','] (first :: texts.map fun text => ' ' :: text) := by
  induction texts generalizing first with
  | nil => rfl
  | cons second texts ih =>
      have hsecond : ∀ more, Text.joinWith [','] ((' ' :: second) :: more) =
          ' ' :: Text.joinWith [','] (second :: more) := by
        intro more
        cases more <;> rfl
      rw [List.map_cons, Text.joinWith, Text.joinWith, List.intercalate_cons_cons,
        List.intercalate_cons_cons, ← Text.joinWith, ← Text.joinWith, ih, hsecond, delimiter,
        List.append_assoc, List.append_assoc]
      rfl

theorem splitArguments_joinWith {texts : List (List Char)} (h : ∀ text ∈ texts, Argument text) :
    splitArguments (Text.joinWith delimiter texts) = texts := by
  cases texts with
  | nil => rfl
  | cons first texts =>
      obtain ⟨hfirst, hothers⟩ := List.forall_mem_cons.mp h
      have hpadded : ∀ text ∈ texts, Text.trim (' ' :: text) = text := fun text hmem =>
        (trim_blank (by decide) text).trans (hothers text hmem).trimmed.trim_eq
      have harguments : ∀ text ∈ first :: texts.map fun text => ' ' :: text,
          Argument (Text.trim text) := by
        refine List.forall_mem_cons.mpr ⟨?_, List.forall_mem_map.mpr fun text hmem => ?_⟩
        · rwa [hfirst.trimmed.trim_eq]
        · rw [hpadded text hmem]
          exact hothers text hmem
      have hrest : texts.map (Text.trim ∘ fun text => ' ' :: text) = texts :=
        (List.map_congr_left hpadded).trans (List.map_id texts)
      rw [joinWith_delimiter, splitArguments_padded harguments, List.map_cons,
        hfirst.trimmed.trim_eq, List.map_map, hrest]

/-! ### Calls -/

/-- The text of a call: the name behind a dollar sign, and the arguments in brackets. -/
def callText (name : List Char) (texts : List (List Char)) : List Char :=
  '$' :: (name ++ '(' :: (Text.joinWith delimiter texts ++ [')']))

/-- A name that may stand in front of arguments. -/
structure IsName (name : List Char) : Prop where
  passes : ∀ c ∈ name, c ∉ marks
  trimmed : Trimmed name

/-- **The name and the arguments of a call are found again.** -/
theorem call?_callText {name : List Char} (hname : IsName name) (texts : List (List Char)) :
    call? (callText name texts) = some (name, Text.joinWith delimiter texts) := by
  have hmarks : ∀ c, isParenthesis c = true → c ∈ marks := by
    intro c hc
    simp only [isParenthesis, Bool.or_eq_true, beq_iff_eq] at hc
    rcases hc with rfl | rfl <;> decide
  obtain ⟨d, more, heq, -⟩ := hname.trimmed.head
  refine call?_eq_some_iff.mpr ⟨rfl, heq ▸ List.cons_ne_nil d more, fun c hc => ?_⟩
  rw [Bool.eq_false_iff]
  exact fun hparenthesis => hname.passes c hc (hmarks c hparenthesis)

/-- A call is found again if its arguments are. -/
theorem argument_callText {name : List Char} (hname : IsName name) {texts : List (List Char)}
    (h : ∀ text ∈ texts, Argument text) : Argument (callText name texts) where
  passes := by
    have hdelimiter : PassesFrom 1 delimiter := .comma (.cons (by decide) .nil)
    have harguments : PassesFrom 1 (Text.joinWith delimiter texts) :=
      .joinWith hdelimiter fun text hmem => (h text hmem).passes.mono (Nat.zero_le 1)
    exact .cons (by decide) ((PassesFrom.of_not_mem hname.passes).append
      (.bracket (by decide) harguments))
  trimmed := by
    have hlast : callText name texts =
        '$' :: ((name ++ '(' :: Text.joinWith delimiter texts) ++ [')']) := by
      rw [callText, List.append_assoc, List.cons_append]
    rw [hlast]
    exact .enclosed (by decide) (by decide) _

end JsonExpr.Shorthand
