import JsonExpr.Proofs.Shorthand.Arguments
import JsonExpr.Proofs.Shorthand.CallStrings
import Mathlib.Data.List.Induction
import Mathlib.Data.List.Infix

/-!
# Commas between arguments

An argument text is cut at its top-level commas: those that stand in no quoted part, and in front of
which every bracket that was opened has been closed again.  Brackets of all shapes count alike, and
one that closes nothing is passed over, so it hides no comma behind it.  Behind such a comma reading
starts afresh.

The scanner counts open brackets from left to right and stops at zero.  What it has counted is the
most by which opening brackets outnumber closing ones in any text that ends where it stands; so a
comma is at top level if they do not outnumber them in any, and no count from the left is needed to
say so.

Main definitions:

* `JsonExpr.Shorthand.Unquoted` — the characters that stand in no quoted part of a text;
* `JsonExpr.Shorthand.TopLevel` — texts behind which a comma separates arguments;
* `JsonExpr.Shorthand.SelfContained` — texts that close what they open, with their commas inside;
* `JsonExpr.Shorthand.PartsOf` — the parts of a text between its top-level commas.

Main results:

* `JsonExpr.Shorthand.foldl_deepen_le_iff` — how many brackets are left open;
* `JsonExpr.Shorthand.isTop_iff` — where the scanner takes a comma to separate arguments;
* `JsonExpr.Shorthand.partsOf_splitTop` — a text is cut at its top-level commas, and nowhere else;
* `JsonExpr.Shorthand.splitting_undoes_joining` — **arguments that are joined with commas are found
  again, and nothing but top-level commas and white space is lost of any text**.
-/

set_option autoImplicit false

namespace JsonExpr.Shorthand

/-! ### Quoted parts -/

/-- Whether `c` is a quotation mark. -/
def isMark (c : Char) : Bool := c == '"' || c == '\''

/-- What stands behind a quotation mark, up to the one that closes the quoted part.  A backslash
takes the next character with it. -/
inductive Quoted (mark : Char) : List Char → Prop
  | close : Quoted mark [mark]
  | escaped {c : Char} {body : List Char} : Quoted mark body → Quoted mark ('\\' :: c :: body)
  | char {c : Char} {body : List Char} : c ≠ mark → c ≠ '\\' → Quoted mark body →
      Quoted mark (c :: body)

/-- The characters that stand in no quoted part of a text, each of which is closed. -/
inductive Unquoted : List Char → List Char → Prop
  | nil : Unquoted [] []
  | char {c : Char} {text kept : List Char} : isMark c = false → Unquoted text kept →
      Unquoted (c :: text) (c :: kept)
  | quoted {mark : Char} {body text kept : List Char} : isMark mark = true → Quoted mark body →
      Unquoted text kept → Unquoted (mark :: (body ++ text)) kept

/-! ### Open brackets -/

/-- How many brackets are open after one more character. -/
def deepen (depth : Nat) (c : Char) : Nat :=
  if isOpening c then depth + 1 else if isClosing c then depth - 1 else depth

theorem isClosing_of_isOpening {c : Char} (h : isOpening c = true) : isClosing c = false := by
  simp only [isOpening, Bool.or_eq_true, beq_iff_eq] at h
  rcases h with (rfl | rfl) | rfl <;> rfl

/-- **What is left open** is the most by which opening brackets outnumber closing ones in any text
behind which nothing follows. -/
theorem foldl_deepen_le_iff {kept : List Char} {n : Nat} :
    kept.foldl deepen 0 ≤ n ↔
      ∀ s, s <:+ kept → s.countP isOpening ≤ s.countP isClosing + n := by
  induction kept using List.reverseRecOn generalizing n with
  | nil => simp
  | append_singleton kept c ih =>
      -- A text that ends where `c` does is empty, or `c` behind one that ends in front of it.
      have hends : (∀ s, s <:+ kept ++ [c] → s.countP isOpening ≤ s.countP isClosing + n) ↔
          ∀ s, s <:+ kept → (s ++ [c]).countP isOpening ≤ (s ++ [c]).countP isClosing + n := by
        constructor
        · exact fun h s hs => h _ ((List.suffix_append_inj_of_length_eq rfl).mpr ⟨hs, rfl⟩)
        · intro h s hs
          rcases List.suffix_concat_iff.mp hs with rfl | ⟨t, rfl, ht⟩
          · simp
          · exact h t ht
      rw [hends, List.foldl_append, List.foldl_cons, List.foldl_nil, deepen]
      simp only [List.countP_append, List.countP_singleton]
      by_cases hopening : isOpening c = true
      · simp only [hopening, isClosing_of_isOpening hopening, if_true, Bool.false_eq_true, if_false]
        cases n with
        | zero =>
            refine iff_of_false (Nat.not_succ_le_zero _) fun h => ?_
            exact absurd (h [] (List.nil_suffix)) (by simp)
        | succ n =>
            rw [Nat.succ_le_succ_iff, ih]
            exact forall₂_congr fun s _ => by omega
      · by_cases hclosing : isClosing c = true
        · simp only [hopening, hclosing, if_true, Bool.false_eq_true, if_false]
          rw [Nat.sub_le_iff_le_add, ih]
          exact forall₂_congr fun s _ => by omega
        · simp only [hopening, hclosing, Bool.false_eq_true, if_false]
          rw [ih]
          exact forall₂_congr fun s _ => by omega

/-- Where closing brackets never outnumber opening ones, none is passed over. -/
theorem foldl_deepen_eq {kept : List Char} (depth : Nat)
    (h : ∀ first, first <+: kept → first.countP isClosing ≤ first.countP isOpening) :
    kept.foldl deepen depth + kept.countP isClosing = depth + kept.countP isOpening := by
  induction kept using List.reverseRecOn with
  | nil => rfl
  | append_singleton kept c ih =>
      have hbefore := ih fun first hfirst => h first (hfirst.trans (List.prefix_append kept [c]))
      have hkept := h kept (List.prefix_append kept [c])
      have hwhole := h _ (List.prefix_refl _)
      rw [List.foldl_append, List.foldl_cons, List.foldl_nil, deepen]
      simp only [List.countP_append, List.countP_singleton] at hwhole ⊢
      by_cases hopening : isOpening c = true
      · simp only [hopening, isClosing_of_isOpening hopening, if_true, Bool.false_eq_true, if_false]
        omega
      · by_cases hclosing : isClosing c = true
        · simp only [hopening, hclosing, if_true, Bool.false_eq_true, if_false] at hwhole ⊢
          omega
        · simp only [hopening, hclosing, Bool.false_eq_true, if_false]
          omega

/-! ### What the scanner reads -/

/-- In a quoted part, within so many brackets. -/
def Nesting.inside (mark : Char) (depth : Nat) : Nesting := ⟨depth, some mark, false⟩

section Reading

variable {mark c : Char} {text kept body : List Char} {n m : Nesting} {depth : Nat}

theorem Passes.foldl_eq (h : Passes n text m) : text.foldl Nesting.next n = m := by
  induction h with
  | nil => rfl
  | cons _ _ ih => exact ih

theorem next_of_not_mark (h : isMark c = false) (depth : Nat) :
    (Nesting.within depth).next c = .within (deepen depth c) := by
  simp only [isMark, Bool.or_eq_false_iff, beq_eq_false_iff_ne] at h
  simp [Nesting.next, Nesting.within, deepen, isOpening, isClosing, h, or_assoc]
  split <;> [rfl; split <;> rfl]

theorem next_of_mark (h : isMark mark = true) (depth : Nat) :
    (Nesting.within depth).next mark = .inside mark depth := by
  have hquote : mark = '"' ∨ mark = '\'' := by simpa [isMark] using h
  simp [Nesting.next, Nesting.within, Nesting.inside, hquote]

/-- A quoted part is read to its end, and has no comma that cuts. -/
theorem Quoted.passes (h : Quoted mark body) (hmark : mark ≠ '\\') (depth : Nat) :
    Passes (.inside mark depth) body (.within depth) := by
  have htop : ∀ {c : Char} {escaped : Bool},
      ¬ (c = ',' ∧ (Nesting.mk depth (some mark) escaped).isTop = true) :=
    fun hcut => by simp [Nesting.isTop] at hcut
  induction h with
  | close =>
      refine .cons htop ?_
      have hnext : (Nesting.inside mark depth).next mark = .within depth := by
        simp [Nesting.next, Nesting.inside, Nesting.within, hmark]
      rw [hnext]
      exact .nil
  | @escaped c body _ ih =>
      refine .cons htop (.cons htop ?_)
      have hnext : ((Nesting.inside mark depth).next '\\').next c = .inside mark depth := by
        simp [Nesting.next, Nesting.inside]
      rwa [hnext]
  | @char c body hc hescape _ ih =>
      refine .cons htop ?_
      have hnext : (Nesting.inside mark depth).next c = .inside mark depth := by
        simp [Nesting.next, Nesting.inside, hc, hescape]
      rwa [hnext]

theorem ne_backslash_of_mark (h : isMark mark = true) : mark ≠ '\\' := by
  rintro rfl
  cases h

/-- Of a text whose quoted parts are closed, what stands outside of them counts. -/
theorem Unquoted.foldl_next (h : Unquoted text kept) (depth : Nat) :
    text.foldl Nesting.next (.within depth) = .within (kept.foldl deepen depth) := by
  induction h generalizing depth with
  | nil => rfl
  | char hc _ ih => rw [List.foldl_cons, List.foldl_cons, next_of_not_mark hc, ih]
  | quoted hmark hbody _ ih =>
      rw [List.foldl_cons, next_of_mark hmark, List.foldl_append,
        (hbody.passes (ne_backslash_of_mark hmark) depth).foldl_eq, ih]

/-- A text is read without a cut if brackets are open in front of each comma outside of quoted
parts. -/
theorem Unquoted.passes (h : Unquoted text kept)
    (hcommas : ∀ front rest, kept = front ++ ',' :: rest → 0 < front.foldl deepen depth) :
    Passes (.within depth) text (.within (kept.foldl deepen depth)) := by
  induction h generalizing depth with
  | nil => exact .nil
  | @char c text kept hc _ ih =>
      refine .cons ?_ ?_
      · rintro ⟨rfl, htop⟩
        have hopen : 0 < depth := hcommas [] kept rfl
        have hzero : depth = 0 := by simpa [Nesting.isTop, Nesting.within] using htop
        omega
      · rw [next_of_not_mark hc]
        exact ih fun front rest heq => hcommas (c :: front) rest (congrArg (c :: ·) heq)
  | @quoted mark body text kept hmark hbody _ ih =>
      refine .cons ?_ ?_
      · rintro ⟨rfl, -⟩
        cases hmark
      · rw [next_of_mark hmark]
        exact (hbody.passes (ne_backslash_of_mark hmark) depth).append (ih hcommas)

/-- A quoted part is closed, or still open at the end of the text. -/
theorem quoted_or_open (mark : Char) (depth : Nat) (text : List Char) :
    (∃ body after, text = body ++ after ∧ Quoted mark body) ∨
      (text.foldl Nesting.next (.inside mark depth)).quote = some mark := by
  have hclose : ∀ after : List Char, ∃ body rest, mark :: after = body ++ rest ∧ Quoted mark body :=
    fun after => ⟨[mark], after, rfl, .close⟩
  have hescape : (Nesting.inside mark depth).next '\\' = ⟨depth, some mark, true⟩ := by
    simp [Nesting.next, Nesting.inside]
  have hplain : ∀ {c : Char}, c ≠ mark → c ≠ '\\' →
      (Nesting.inside mark depth).next c = .inside mark depth := by
    intro c hc hbackslash
    simp [Nesting.next, Nesting.inside, hc, hbackslash]
  -- An escaped character is read together with the backslash in front of it.
  induction text using List.twoStepInduction with
  | nil => exact .inr rfl
  | singleton c =>
      by_cases hbackslash : c = '\\'
      · subst hbackslash
        right
        rw [List.foldl_cons, hescape]
        rfl
      · by_cases hc : c = mark
        · exact .inl (hc ▸ hclose [])
        · right
          rw [List.foldl_cons, hplain hc hbackslash]
          rfl
  | cons_cons c d text ihescaped ihplain =>
      by_cases hbackslash : c = '\\'
      · subst hbackslash
        have hnext : (Nesting.mk depth (some mark) true).next d = .inside mark depth := by
          simp [Nesting.next, Nesting.inside]
        obtain ⟨body, after, rfl, hbody⟩ | hopen := ihescaped
        · exact .inl ⟨'\\' :: d :: body, after, rfl, .escaped hbody⟩
        · right
          rw [List.foldl_cons, List.foldl_cons, hescape, hnext]
          exact hopen
      · by_cases hc : c = mark
        · exact .inl (hc ▸ hclose (d :: text))
        · obtain ⟨body, after, heq, hbody⟩ | hopen := ihplain d
          · exact .inl ⟨c :: body, after, congrArg (c :: ·) heq, .char hc hbackslash hbody⟩
          · right
            rw [List.foldl_cons, hplain hc hbackslash]
            exact hopen

/-- Where no quoted part is open, each is closed. -/
theorem exists_unquoted (h : (text.foldl Nesting.next (.within depth)).quote = none) :
    ∃ kept, Unquoted text kept := by
  induction hlength : text.length using Nat.strong_induction_on generalizing text depth with
  | _ length ih =>
      cases text with
      | nil => exact ⟨[], .nil⟩
      | cons c text =>
          rw [List.foldl_cons] at h
          by_cases hmark : isMark c = true
          · rw [next_of_mark hmark] at h
            obtain ⟨body, after, rfl, hbody⟩ | hopen := quoted_or_open c depth text
            · rw [List.foldl_append,
                (hbody.passes (ne_backslash_of_mark hmark) depth).foldl_eq] at h
              have hlt : after.length < length := by
                rw [← hlength, List.length_cons, List.length_append]
                omega
              obtain ⟨kept, hkept⟩ := ih _ hlt h rfl
              exact ⟨kept, .quoted hmark hbody hkept⟩
            · rw [hopen] at h
              cases h
          · rw [next_of_not_mark (Bool.eq_false_iff.mpr hmark)] at h
            have hlt : text.length < length := by
              rw [← hlength, List.length_cons]
              omega
            obtain ⟨kept, hkept⟩ := ih _ hlt h rfl
            exact ⟨c :: kept, .char (Bool.eq_false_iff.mpr hmark) hkept⟩

end Reading

/-! ### Top-level commas -/

/-- A text behind which a comma separates arguments: its quoted parts are closed, and so is every
bracket outside of them. -/
def TopLevel (front : List Char) : Prop :=
  ∃ kept, Unquoted front kept ∧
    ∀ s, s <:+ kept → s.countP isOpening ≤ s.countP isClosing

/-- **The scanner takes a comma to separate arguments where quoted parts and brackets are
closed.** -/
theorem isTop_iff {front : List Char} :
    (front.foldl Nesting.next .none).isTop = true ↔ TopLevel front := by
  have htop : ∀ depth, (Nesting.within depth).isTop = true ↔ depth ≤ 0 := by
    simp [Nesting.isTop, Nesting.within]
  have hkept : ∀ kept, Unquoted front kept →
      ((front.foldl Nesting.next .none).isTop = true ↔
        ∀ s, s <:+ kept → s.countP isOpening ≤ s.countP isClosing) := by
    intro kept h
    have hread : front.foldl Nesting.next .none = .within (kept.foldl deepen 0) := h.foldl_next 0
    rw [hread, htop, foldl_deepen_le_iff]
    rfl
  constructor
  · intro h
    have hquote : (front.foldl Nesting.next (.within 0)).quote = none := by
      rw [Nesting.isTop, Bool.and_eq_true, Option.isNone_iff_eq_none] at h
      exact h.1
    obtain ⟨kept, hunquoted⟩ := exists_unquoted hquote
    exact ⟨kept, hunquoted, (hkept kept hunquoted).mp h⟩
  · rintro ⟨kept, hunquoted, h⟩
    exact (hkept kept hunquoted).mpr h

/-! ### Parts of a text -/

/-- A text that ends where one of the parts does, with a comma and more parts behind it. -/
def EndsPart (parts : List (List Char)) (front : List Char) : Prop :=
  ∃ before after, before ≠ [] ∧ after ≠ [] ∧ parts = before ++ after ∧
    Text.joinWith [','] before = front

/-- The parts of a text between its top-level commas. -/
structure PartsOf (text : List Char) (parts : List (List Char)) : Prop where
  joined : Text.joinWith [','] parts = text
  commas : ∀ front rest, text = front ++ ',' :: rest → (TopLevel front ↔ EndsPart parts front)

theorem joinWith_consHead {parts : List (List Char)} (hne : parts ≠ []) (c : Char) :
    Text.joinWith [','] (Text.consHead c parts) = c :: Text.joinWith [','] parts := by
  obtain ⟨part, more, rfl⟩ := List.exists_cons_of_ne_nil hne
  cases more <;> rfl

theorem joinWith_nil_cons {parts : List (List Char)} (hne : parts ≠ []) :
    Text.joinWith [','] ([] :: parts) = ',' :: Text.joinWith [','] parts := by
  rw [Text.joinWith, List.intercalate_cons_of_ne_nil hne]
  rfl

/-- In front of the parts behind a comma at the start, there is nothing, or the comma. -/
theorem endsPart_nil_cons {parts : List (List Char)} (hne : parts ≠ []) {front : List Char} :
    EndsPart ([] :: parts) front ↔
      front = [] ∨ ∃ more, front = ',' :: more ∧ EndsPart parts more := by
  constructor
  · rintro ⟨before, after, hbefore, hafter, heq, rfl⟩
    obtain ⟨first, before, rfl⟩ := List.exists_cons_of_ne_nil hbefore
    obtain ⟨rfl, rfl⟩ := List.cons.inj heq
    cases before with
    | nil => exact .inl rfl
    | cons part before =>
        have hmore := List.cons_ne_nil part before
        exact .inr ⟨_, joinWith_nil_cons hmore, _, after, hmore, hafter, rfl, rfl⟩
  · rintro (rfl | ⟨more, rfl, before, after, hbefore, hafter, rfl, rfl⟩)
    · exact ⟨[[]], parts, List.cons_ne_nil _ _, hne, rfl, rfl⟩
    · exact ⟨[] :: before, after, List.cons_ne_nil _ _, hafter, rfl, joinWith_nil_cons hbefore⟩

theorem endsPart_consHead {parts : List (List Char)} (hne : parts ≠ []) {c : Char}
    {front : List Char} :
    EndsPart (Text.consHead c parts) front ↔ ∃ more, front = c :: more ∧ EndsPart parts more := by
  obtain ⟨part, parts, rfl⟩ := List.exists_cons_of_ne_nil hne
  constructor
  · rintro ⟨before, after, hbefore, hafter, heq, rfl⟩
    obtain ⟨first, before, rfl⟩ := List.exists_cons_of_ne_nil hbefore
    obtain ⟨rfl, rfl⟩ := List.cons.inj heq
    have hmore := List.cons_ne_nil part before
    exact ⟨_, joinWith_consHead hmore c, part :: before, after, hmore, hafter, rfl, rfl⟩
  · rintro ⟨more, rfl, before, after, hbefore, hafter, heq, rfl⟩
    obtain ⟨first, before, rfl⟩ := List.exists_cons_of_ne_nil hbefore
    obtain ⟨rfl, rfl⟩ := List.cons.inj heq
    exact ⟨(c :: part) :: before, after, List.cons_ne_nil _ _, hafter, rfl,
      joinWith_consHead (List.cons_ne_nil part before) c⟩

theorem splitTop_ne_nil (n : Nesting) (text : List Char) : splitTop n text ≠ [] := by
  cases text with
  | nil => exact List.cons_ne_nil _ _
  | cons c text =>
      rw [splitTop]
      split
      · exact List.cons_ne_nil _ _
      · cases splitTop (n.next c) text <;> exact List.cons_ne_nil _ _

theorem joinWith_splitTop (n : Nesting) (text : List Char) :
    Text.joinWith [','] (splitTop n text) = text := by
  induction text generalizing n with
  | nil => rfl
  | cons c text ih =>
      rw [splitTop]
      split
      · next hcut => rw [joinWith_nil_cons (splitTop_ne_nil _ _), ih, hcut.1]
      · rw [joinWith_consHead (splitTop_ne_nil _ _), ih]

theorem next_comma_of_isTop {n : Nesting} (h : n.isTop = true) : n.next ',' = n := by
  rw [Nesting.isTop, Bool.and_eq_true, Option.isNone_iff_eq_none] at h
  simp [Nesting.next, h.1]

/-- A part ends in front of each comma where nothing is open, and nowhere else. -/
theorem endsPart_splitTop_iff {n : Nesting} {text front rest : List Char}
    (htext : text = front ++ ',' :: rest) :
    EndsPart (splitTop n text) front ↔ (front.foldl Nesting.next n).isTop = true := by
  induction text generalizing n front with
  | nil => cases front <;> cases htext
  | cons c text ih =>
      have hne := splitTop_ne_nil
      rw [splitTop]
      split
      · next hcut =>
        rw [endsPart_nil_cons (hne _ _)]
        cases front with
        | nil => exact iff_of_true (.inl rfl) hcut.2
        | cons d front =>
            obtain ⟨rfl, rfl⟩ := List.cons.inj htext
            rw [List.foldl_cons, hcut.1, next_comma_of_isTop hcut.2, ← ih rfl]
            simp
      · next hcut =>
        rw [endsPart_consHead (hne _ _)]
        cases front with
        | nil =>
            obtain ⟨rfl, rfl⟩ := List.cons.inj htext
            refine iff_of_false ?_ fun htop => hcut ⟨rfl, htop⟩
            rintro ⟨more, hmore, -⟩
            cases hmore
        | cons d front =>
            obtain ⟨rfl, rfl⟩ := List.cons.inj htext
            rw [List.foldl_cons, ← ih rfl]
            simp

/-- **A text is cut at its top-level commas, and nowhere else.** -/
theorem partsOf_splitTop (text : List Char) : PartsOf text (splitTop .none text) where
  joined := joinWith_splitTop .none text
  commas _ _ htext := isTop_iff.symm.trans (endsPart_splitTop_iff htext).symm

/-! ### Arguments -/

/-- Brackets that belong together: read from the left, never more are closed than were opened, and
as many at the end; and commas stand between them. -/
structure Matched (kept : List Char) : Prop where
  prefixes : ∀ first, first <+: kept → first.countP isClosing ≤ first.countP isOpening
  whole : kept.countP isClosing = kept.countP isOpening
  commas : ∀ first, first ++ [','] <+: kept → first.countP isClosing < first.countP isOpening

instance (kept : List Char) : Decidable (Matched kept) :=
  decidable_of_iff
    ((∀ first ∈ kept.inits, first.countP isClosing ≤ first.countP isOpening) ∧
      kept.countP isClosing = kept.countP isOpening ∧
      ∀ first ∈ kept.inits, first ++ [','] <+: kept →
        first.countP isClosing < first.countP isOpening)
    ⟨fun ⟨hprefixes, hwhole, hcommas⟩ =>
        ⟨fun first h => hprefixes first ((List.mem_inits _ _).mpr h), hwhole,
          fun first h => hcommas first
            ((List.mem_inits _ _).mpr ((List.prefix_append first [',']).trans h)) h⟩,
      fun ⟨hprefixes, hwhole, hcommas⟩ =>
        ⟨fun first h => hprefixes first ((List.mem_inits _ _).mp h), hwhole,
          fun first _ h => hcommas first h⟩⟩

/-- A text that is not empty, has no white space at its ends, and outside of its quoted parts, all
of which are closed, has brackets that belong together and no comma but between them. -/
structure SelfContained (text : List Char) : Prop where
  nonempty : text ≠ []
  head : ∀ c ∈ text.head?, Text.isBlank c = false
  last : ∀ c ∈ text.getLast?, Text.isBlank c = false
  matched : ∃ kept, Unquoted text kept ∧ Matched kept

theorem SelfContained.argument {text : List Char} (h : SelfContained text) : Argument text where
  passes := by
    obtain ⟨kept, hunquoted, hmatched⟩ := h.matched
    intro depth _
    have hend : kept.foldl deepen depth = depth := by
      have hcount := foldl_deepen_eq depth hmatched.prefixes
      have hwhole := hmatched.whole
      omega
    have hcommas : ∀ front rest, kept = front ++ ',' :: rest → 0 < front.foldl deepen depth := by
      intro front rest heq
      have hfront : front ++ [','] <+: kept := ⟨rest, by rw [heq, List.append_assoc]; rfl⟩
      have hcount := foldl_deepen_eq depth fun first hfirst =>
        hmatched.prefixes first (hfirst.trans ((List.prefix_append front [',']).trans hfront))
      have hcomma := hmatched.commas front hfront
      omega
    have hpasses := hunquoted.passes hcommas
    rwa [hend] at hpasses
  trimmed := by
    constructor
    · obtain ⟨c, more, rfl⟩ := List.exists_cons_of_ne_nil h.nonempty
      exact ⟨c, more, rfl, h.head c rfl⟩
    · exact ⟨text.dropLast, text.getLast h.nonempty, (List.dropLast_concat_getLast h.nonempty).symm,
        h.last _ (List.getLast?_eq_some_getLast h.nonempty)⟩

/-- **Splitting arguments undoes joining them.**  Arguments that are joined with commas, and with
any white space around the commas, are found again, if each of them closes the quoted parts and the
brackets that it opens and has its commas inside of them.  Of any text the parts between its
top-level commas are found, in order, without the white space at their ends, and nothing else is
lost; but text of nothing but white space has no arguments at all. -/
theorem splitting_undoes_joining :
    (∀ arguments padded : List (List Char), (∀ text ∈ arguments, SelfContained text) →
      List.Forall₂ Text.TrimmedTo padded arguments →
      splitArguments (Text.joinWith [','] padded) = arguments) ∧
    ∀ text : List Char, ∃ parts, PartsOf text parts ∧
      ((∀ c ∈ text, Text.isBlank c = true) → splitArguments text = []) ∧
      ((∃ c ∈ text, Text.isBlank c = false) →
        List.Forall₂ Text.TrimmedTo parts (splitArguments text)) := by
  refine ⟨fun arguments padded harguments hpadded => ?_, fun text =>
    ⟨splitTop .none text, partsOf_splitTop text, fun hblank => ?_, ?_⟩⟩
  · have htrim : padded.map Text.trim = arguments := by
      rw [← List.forall₂_eq_eq_eq, List.forall₂_map_left_iff]
      exact hpadded.imp fun _ _ h => h.trim_eq
    rw [← htrim] at harguments ⊢
    exact splitArguments_padded fun text h => (harguments _ (List.mem_map_of_mem h)).argument
  · have hall : Text.allBlank text = true := List.all_eq_true.mpr hblank
    rw [splitArguments, if_pos hall]
  · rintro ⟨c, hc, hblank⟩
    have hnot : Text.allBlank text = false :=
      List.all_eq_false.mpr ⟨c, hc, Bool.eq_false_iff.mp hblank⟩
    rw [splitArguments, if_neg (Bool.eq_false_iff.mp hnot), List.forall₂_map_right_iff]
    exact List.forall₂_same.mpr fun part _ => Text.trimmedTo_trim part

/-- A comma between brackets and one between quotation marks do not separate arguments; one behind a
bracket that closes nothing does, and blank text has none. -/
theorem call_and_quoted_text_are_found_again :
    let call := "f(1, 2)".toList
    let quoted := "'a, )'".toList
    SelfContained call ∧ SelfContained quoted ∧
      splitArguments "f(1, 2) ,\t'a, )'".toList = [call, quoted] ∧
      splitArguments " \n".toList = [] ∧
      ∃ parts, PartsOf "a), (b,".toList parts ∧
        List.Forall₂ Text.TrimmedTo parts (splitArguments "a), (b,".toList) := by
  intro call quoted
  have htrimcall : Text.TrimmedTo "f(1, 2) ".toList call := by
    have htrim : Text.trim "f(1, 2) ".toList = call := by decide
    exact htrim ▸ Text.trimmedTo_trim _
  have htrimquoted : Text.TrimmedTo "\t'a, )'".toList quoted := by
    have htrim : Text.trim "\t'a, )'".toList = quoted := by decide
    exact htrim ▸ Text.trimmedTo_trim _
  have hcall : SelfContained call := by
    refine ⟨by decide, htrimcall.head, htrimcall.last, call, ?_, by decide⟩
    iterate 7 refine .char rfl ?_
    exact .nil
  have hquoted : SelfContained quoted := by
    have hbody : Quoted '\'' "a, )'".toList := by
      iterate 4 refine .char (by decide) (by decide) ?_
      exact .close
    exact ⟨by decide, htrimquoted.head, htrimquoted.last, [], .quoted rfl hbody .nil, by decide⟩
  obtain ⟨hjoined, hparts⟩ := splitting_undoes_joining
  refine ⟨hcall, hquoted,
    hjoined _ _ (by simp [hcall, hquoted]) (.cons htrimcall (.cons htrimquoted .nil)), ?_, ?_⟩
  · obtain ⟨-, -, hblank, -⟩ := hparts " \n".toList
    exact hblank (List.all_eq_true.mp (by decide))
  · obtain ⟨parts, hcut, -, htrimmed⟩ := hparts "a), (b,".toList
    exact ⟨parts, hcut, htrimmed ⟨'a', by decide, rfl⟩⟩

end JsonExpr.Shorthand
