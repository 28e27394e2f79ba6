import JsonExpr.Proofs.Text.Case
import JsonExpr.Proofs.Text.Words
import Mathlib.Data.List.Chain

/-!
# Camel case twice

A name in camel case should be its own camel case.  It is, unless words come together in it: a word
of one letter is a capital where it stands behind another word, and followed by another capital it
is taken for part of an acronym.  So `a b c` becomes `aBC`, whose words are `a` and `BC`, and that
becomes `aBc`.  Some letters without a capital, or with one that is written with two, do the same.

Which names stay as they are can be told from their own words, for any name: nothing stands between
the words but the marks in front of digits, and each word is what it becomes when it is put in lower
case and gets its capital back.  The difficulty is that case mappings may be longer or shorter than
what they map, so that one word might make up for another; it is settled from left to right, since
a mapping that starts with the character itself does not change it.

Main definitions:

* `JsonExpr.Text.CamelCased` — names whose words are in camel case as they stand;
* `JsonExpr.Text.Plain` — names of letters with a lower case and a capital, and digits;
* `JsonExpr.Text.blurs` — words that are taken for one when they are capitalized.

Main results:

* `JsonExpr.Text.camelCase_eq_self_iff` — **which names are their own camel case**;
* `JsonExpr.Text.camelCase_camelCase_iff` — **which plain names have a camel case that stays**:
  those in which no two words blur.
-/

set_option autoImplicit false

namespace JsonExpr.Text

/-! ### Names that are their own camel case -/

/-- The mark in front of a word that starts with a digit. -/
def mark (word : List Char) : List Char := if word.head?.any Char.isDigit then ['_'] else []

/-- The words of a name are in camel case as they stand: the first one is in lower case, each other
one gets nothing but its mark from being put in lower case and capitalized, and only these marks
stand between them.  Names without words count as well. -/
def CamelCased (name : List Char) : Prop :=
  words name = [] ∨ ∃ first rest, words name = first :: rest ∧
    name = first ++ rest.flatMap (fun w => mark w ++ w) ∧ lower first = first ∧
    ∀ w ∈ rest, capitalized (lower w) = mark w ++ w

theorem isAlphanumeric_mark : isAlphanumeric '_' = false := by decide

/-- A text in lower case in front of another text, letter by letter. -/
theorem go_append_eq {word : List Char} (hword : ∀ c ∈ word, isAlphanumeric c = true) :
    ∀ {before u v : List Char}, lower.go before word ++ u = word ++ v →
      lower.go before word = word ∧ u = v := by
  induction word with
  | nil => exact fun h => ⟨rfl, h⟩
  | cons c word ih =>
      intro before u v h
      obtain ⟨hc, hrest⟩ := List.forall_mem_cons.mp hword
      obtain ⟨a, as, hlower, -⟩ := exists_lowerIn before word hc
      rw [lower.go, hlower, List.cons_append, List.cons_append, List.cons_append] at h
      obtain ⟨rfl, htail⟩ := List.cons.inj h
      obtain rfl := lowerIn_of_head hlower
      obtain ⟨hgo, huv⟩ := ih hrest htail
      exact ⟨by rw [lower.go, hlower, hgo]; rfl, huv⟩

theorem eq_nil_of_cons_eq {separators u v : List Char} {b c : Char}
    (hseparators : ∀ d ∈ separators, isAlphanumeric d = false) (hb : isAlphanumeric b = true)
    (h : b :: u = separators ++ c :: v) : separators = [] := by
  cases separators with
  | nil => rfl
  | cons d separators =>
      obtain ⟨rfl, -⟩ := List.cons.inj h
      exact absurd ((hseparators b List.mem_cons_self).symm.trans hb) Bool.false_ne_true

/-- A capitalized word in front of another text is what it was only if what stands before it is its
mark and it is otherwise unchanged. -/
theorem capitalized_append_eq {c : Char} {word separators u v : List Char}
    (hword : ∀ d ∈ c :: word, isAlphanumeric d = true)
    (hseparators : ∀ d ∈ separators, isAlphanumeric d = false)
    (h : capitalized (lower (c :: word)) ++ u = separators ++ (c :: word ++ v)) :
    separators = mark (c :: word) ∧
      capitalized (lower (c :: word)) = mark (c :: word) ++ c :: word ∧
      lower.go [c] word = word ∧ u = v := by
  obtain ⟨hc, htail⟩ := List.forall_mem_cons.mp hword
  obtain ⟨a, as, hlower, ha⟩ := exists_lowerIn [] word hc
  have hwhole : lower (c :: word) = a :: (as ++ lower.go [c] word) := by
    rw [lower, lower.go, hlower, List.cons_append]
  cases hdigit : a.isDigit with
  | true =>
      obtain rfl := eq_of_lowerIn_digit hlower hdigit
      obtain rfl := lowerIn_of_head hlower
      obtain ⟨-, -, -, hupper, -⟩ := digit_facts hdigit
      have hcapital : capitalized (lower (a :: word)) = '_' :: a :: lower.go [a] word := by
        rw [hwhole, capitalized, if_pos hdigit, hupper]
        rfl
      rw [hcapital] at h ⊢
      cases separators with
      | nil =>
          obtain ⟨hhead, -⟩ := List.cons.inj h
          rw [← hhead, isAlphanumeric_mark] at hc
          cases hc
      | cons d separators =>
          obtain ⟨rfl, hrest⟩ := List.cons.inj h
          obtain ⟨-, hseparators⟩ := List.forall_mem_cons.mp hseparators
          obtain rfl := eq_nil_of_cons_eq hseparators hc hrest
          obtain ⟨hgo, huv⟩ := go_append_eq htail (List.cons.inj hrest).2
          have hmark : mark (a :: word) = ['_'] := if_pos hdigit
          exact ⟨hmark.symm, by rw [hmark, hgo]; rfl, hgo, huv⟩
  | false =>
      obtain ⟨b, bs, hupper, hb⟩ := exists_upperChar ha
      have hcapital : capitalized (lower (c :: word)) =
          b :: (bs ++ (as ++ lower.go [c] word)) := by
        rw [hwhole, capitalized, if_neg (Bool.eq_false_iff.mp hdigit), hupper]
        rfl
      rw [hcapital] at h ⊢
      obtain rfl := eq_nil_of_cons_eq hseparators hb h
      obtain ⟨rfl, hrest⟩ := List.cons.inj h
      obtain ⟨rfl, rfl⟩ := lowerIn_upperChar_of_head hlower hupper
      obtain ⟨hgo, huv⟩ := go_append_eq htail hrest
      have hmark : mark (b :: word) = [] := by
        refine if_neg fun hbdigit => ?_
        -- A digit would be its own lower case.
        have hself := (lowerIn_of_isDigit [] word hbdigit).symm.trans hlower
        obtain ⟨rfl, -⟩ := List.cons.inj hself
        exact Bool.false_ne_true (hdigit.symm.trans hbdigit)
      exact ⟨hmark.symm, by rw [hmark, hgo]; rfl, hgo, huv⟩

/-- Capitalized words that make up the text that they were cut from. -/
theorem marked_of_cut {rows : List (List Char)} : ∀ {text : List Char}, Cut text rows →
    (rows.flatMap fun w => capitalized (lower w)) = text →
      text = (rows.flatMap fun w => mark w ++ w) ∧
        ∀ w ∈ rows, capitalized (lower w) = mark w ++ w := by
  induction rows with
  | nil => exact fun _ h => ⟨h.symm, fun _ hmem => nomatch hmem⟩
  | cons row rows ih =>
      intro text hcut h
      obtain ⟨c, word, rfl⟩ := List.exists_cons_of_ne_nil (hcut.ne_nil row List.mem_cons_self)
      have hword := hcut.alphanumeric _ List.mem_cons_self
      obtain ⟨separators, rest, rfl, hseparators, hrest⟩ := hcut.exists_append
      rw [List.flatMap_cons] at h
      obtain ⟨rfl, hcapitalized, -, hlater⟩ := capitalized_append_eq hword hseparators h
      obtain ⟨htext, hrows⟩ := ih hrest hlater
      refine ⟨?_, List.forall_mem_cons.mpr ⟨hcapitalized, hrows⟩⟩
      rw [List.flatMap_cons, ← htext, List.append_assoc]

/-- **Which names are their own camel case.** -/
theorem camelCase_eq_self_iff {name : List Char} : camelCase name = name ↔ CamelCased name := by
  have hcut := cut_words name
  unfold camelCase CamelCased
  cases hwords : words name with
  | nil => exact ⟨fun _ => .inl rfl, fun _ => rfl⟩
  | cons first rest =>
      rw [hwords] at hcut
      dsimp only
      constructor
      · intro h
        obtain ⟨c, word, rfl⟩ := List.exists_cons_of_ne_nil (hcut.ne_nil first List.mem_cons_self)
        have hword := hcut.alphanumeric _ List.mem_cons_self
        obtain ⟨separators, text, htext, hseparators, hrest⟩ := hcut.exists_append
        obtain ⟨a, as, hlower, ha⟩ := exists_lowerIn [] word (hword c List.mem_cons_self)
        have heq : lower (c :: word) ++ (rest.flatMap fun w => capitalized (lower w)) =
            separators ++ (c :: word ++ text) := by rw [h, htext]
        obtain rfl : separators = [] := by
          rw [lower, lower.go, hlower] at heq
          exact eq_nil_of_cons_eq hseparators ha heq
        obtain ⟨hfirst, hlater⟩ := go_append_eq hword heq
        obtain ⟨hmarked, hwords⟩ := marked_of_cut hrest hlater
        refine .inr ⟨_, _, rfl, ?_, hfirst, hwords⟩
        rw [← hmarked, htext]
        rfl
      · rintro (hnil | ⟨first', rest', hparts, hname, hfirst, hrest⟩)
        · cases hnil
        · obtain ⟨rfl, rfl⟩ := List.cons.inj hparts
          rw [hfirst, List.flatMap_congr hrest, ← hname]

/-! ### Plain names -/

/-- A letter in lower case or an ASCII digit. -/
def isSmall (c : Char) : Bool := isLower c || c.isDigit

/-- A letter with a capital of its own. -/
def hasCapital (c : Char) : Bool :=
  match upperChar c with
  | [capital] => isUpper capital && lowerChar capital == [c]
  | _ => false

/-- Words in lower case that get a capital: each has a first character, which is a digit or a letter
with a capital, and otherwise letters in lower case and digits. -/
def Capitalizable (words : List (List Char)) : Prop :=
  ∀ w ∈ words, ∃ c rest, w = c :: rest ∧ (c.isDigit || hasCapital c) = true ∧
    ∀ d ∈ w, isSmall d = true

/-- The words of a name in lower case. -/
def lowerWords (name : List Char) : List (List Char) := (words name).map lower

/-- The words of a name are letters in lower case and ASCII digits, once they are put in lower case,
and each word but the first starts with a digit or with a letter that has a capital. -/
structure Plain (name : List Char) : Prop where
  small : ∀ w ∈ lowerWords name, ∀ c ∈ w, isSmall c = true
  capitals : ∀ w ∈ (lowerWords name).tail, ∀ c ∈ w.head?, (c.isDigit || hasCapital c) = true

/-- A word of one letter and a word that starts with a letter that is not followed by another: their
capitals look like part of an acronym. -/
def blurs : List Char → List Char → Bool
  | [c], d :: rest => !c.isDigit && !d.isDigit && rest.head?.all Char.isDigit
  | _, _ => false

section Plain

variable {c d C : Char} {before after text word w : List Char} {ws : List (List Char)}

theorem isSmall_cases (h : isSmall c = true) : isLower c = true ∨ c.isDigit = true :=
  Bool.or_eq_true_iff.mp h

theorem isSmall_of_isDigit (h : c.isDigit = true) : isSmall c = true :=
  Bool.or_eq_true_iff.mpr (.inr h)

theorem isAlphanumeric_of_isSmall (h : isSmall c = true) : isAlphanumeric c = true := by
  rcases isSmall_cases h with h | h
  · exact isAlphanumeric_of_isLower h
  · exact (digit_facts h).1

theorem isUpper_of_isSmall (h : isSmall c = true) : isUpper c = false := by
  rcases isSmall_cases h with h | h
  · exact isUpper_of_isLower h
  · exact (digit_facts h).2.1

theorem isLower_of_isUpper (h : isUpper c = true) : isLower c = false := by
  rw [Bool.eq_false_iff]
  intro hlower
  exact Bool.false_ne_true ((isUpper_of_isLower hlower).symm.trans h)

theorem lowerIn_of_isSmall (before after : List Char) (h : isSmall c = true) :
    lowerIn before c after = [c] := by
  rcases isSmall_cases h with h | h
  · exact lowerIn_of_isLower before after h
  · exact lowerIn_of_isDigit before after h

theorem go_of_isSmall (h : ∀ c ∈ word, isSmall c = true) (before : List Char) :
    lower.go before word = word := by
  induction word generalizing before with
  | nil => rfl
  | cons c word ih =>
      obtain ⟨hc, hword⟩ := List.forall_mem_cons.mp h
      rw [lower.go, lowerIn_of_isSmall before word hc, ih hword]
      rfl

theorem hasCapital_iff :
    hasCapital c = true ↔ ∃ C, upperChar c = [C] ∧ isUpper C = true ∧ lowerChar C = [c] := by
  unfold hasCapital
  split
  · next C hupper =>
    rw [Bool.and_eq_true, beq_iff_eq]
    refine ⟨fun h => ⟨C, hupper, h⟩, ?_⟩
    rintro ⟨C', hC', h⟩
    obtain ⟨rfl, -⟩ := List.cons.inj (hupper.symm.trans hC')
    exact h
  · next hno =>
    refine ⟨fun h => (nomatch h), ?_⟩
    rintro ⟨C, hupper, -⟩
    exact absurd hupper (hno C)

/-- A word starts in the way in which it stands alone. -/
theorem lowerIn_nil (c : Char) (after : List Char) : lowerIn [] c after = lowerChar c := by
  rcases lowerIn_cases [] c after with h | ⟨rfl, -⟩
  · exact h
  · exact sigma_facts.1.symm

/-- A word with its capital, but without a mark. -/
def titled : List Char → List Char
  | [] => []
  | c :: rest => upperChar c ++ rest

theorem isDigit_of_isUpper (h : isUpper c = true) : c.isDigit = false := by
  rw [Bool.eq_false_iff]
  intro hdigit
  exact Bool.false_ne_true ((digit_facts hdigit).2.1.symm.trans h)

/-- What a word becomes: a digit gets a mark, and a letter its capital. -/
theorem capitalized_cases (hc : (c.isDigit || hasCapital c) = true) (rest : List Char) :
    (c.isDigit = true ∧ capitalized (c :: rest) = '_' :: c :: rest ∧
        titled (c :: rest) = c :: rest) ∨
      (c.isDigit = false ∧ ∃ C, isUpper C = true ∧ lowerChar C = [c] ∧
        capitalized (c :: rest) = C :: rest ∧ titled (c :: rest) = C :: rest) := by
  cases hdigit : c.isDigit with
  | true =>
      obtain ⟨-, -, -, hupper, -⟩ := digit_facts hdigit
      refine .inl ⟨rfl, ?_, by rw [titled, hupper]; rfl⟩
      rw [capitalized, if_pos hdigit, hupper]
      rfl
  | false =>
      rw [hdigit, Bool.false_or, hasCapital_iff] at hc
      obtain ⟨C, hupper, hC, hlower⟩ := hc
      refine .inr ⟨rfl, C, hC, hlower, ?_, by rw [titled, hupper]; rfl⟩
      rw [capitalized, if_neg (Bool.eq_false_iff.mp hdigit), hupper]
      rfl

/-- In lower case, a word with a capital is what it was. -/
theorem lower_titled (hc : (c.isDigit || hasCapital c) = true)
    (hsmall : ∀ d ∈ c :: word, isSmall d = true) : lower (titled (c :: word)) = c :: word := by
  obtain ⟨-, hword⟩ := List.forall_mem_cons.mp hsmall
  rcases capitalized_cases hc word with ⟨-, -, htitled⟩ | ⟨-, C, -, hlower, -, htitled⟩
  · rw [htitled]
    exact go_of_isSmall hsmall []
  · rw [htitled, lower, lower.go, lowerIn_nil, hlower, go_of_isSmall hword]
    rfl

/-! ### Words that stay apart -/

theorem not_isWordBoundary (h : isUpper d = false) (next : Option Char) :
    isWordBoundary c d next = false := by
  simp [isWordBoundary, h]

/-- Between two capitals is no boundary unless a letter in lower case follows. -/
theorem not_isWordBoundary_of_capital {next : Option Char} (hC : isUpper C = true)
    (hnext : next.any isLower = false) : isWordBoundary C d next = false := by
  rw [isWordBoundary, hnext, isLower_of_isUpper hC, isDigit_of_isUpper hC, Bool.and_false]
  rfl

/-- What goes on in lower case is one row. -/
theorem row_of_isSmall {rest : List Char} : ∀ {c : Char}, isAlphanumeric c = true →
    (∀ d ∈ rest, isSmall d = true) →
    EndsBefore ((c :: rest).getLast (List.cons_ne_nil c rest)) text → Row text (c :: rest) := by
  induction rest with
  | nil => exact fun hc _ hends => .last hc hends
  | cons d rest ih =>
      intro c hc hrest hends
      obtain ⟨hd, hrest⟩ := List.forall_mem_cons.mp hrest
      rw [List.getLast_cons_cons] at hends
      exact .more hc (not_isWordBoundary (isUpper_of_isSmall hd) _)
        (ih (isAlphanumeric_of_isSmall hd) hrest hends)

/-- A word that ends in lower case or in a digit ends in front of capitalized words. -/
theorem endsBefore_of_isSmall (hc : isSmall c = true) (h : Capitalizable ws) :
    EndsBefore c (ws.flatMap capitalized) := by
  cases ws with
  | nil => trivial
  | cons w ws =>
      obtain ⟨d, rest, rfl, hd, -⟩ := h w List.mem_cons_self
      rw [List.flatMap_cons]
      rcases capitalized_cases hd rest with ⟨-, hcapital, -⟩ | ⟨-, C, hC, -, hcapital, -⟩
      · rw [hcapital]
        exact fun hmark => absurd (isAlphanumeric_mark.symm.trans hmark) Bool.false_ne_true
      · rw [hcapital]
        intro _
        have hlowerCase : (isLower c || c.isDigit) = true := hc
        rw [isWordBoundary, hlowerCase, hC]
        rfl

/-- A word that is one capital ends in front of capitalized words if it does not blur with the
first of them. -/
theorem endsBefore_of_not_blurs (hc : c.isDigit = false) (hC : isUpper C = true)
    (h : Capitalizable ws) (hblurs : ∀ w ∈ ws.head?, blurs [c] w = false) :
    EndsBefore C (ws.flatMap capitalized) := by
  cases ws with
  | nil => trivial
  | cons w ws =>
      obtain ⟨d, rest, rfl, hd, hsmall⟩ := h w List.mem_cons_self
      rw [List.flatMap_cons]
      rcases capitalized_cases hd rest with ⟨-, hcapital, -⟩ | ⟨hletter, D, hD, -, hcapital, -⟩
      · rw [hcapital]
        exact fun hmark => absurd (isAlphanumeric_mark.symm.trans hmark) Bool.false_ne_true
      · rw [hcapital]
        intro _
        have hno := hblurs (d :: rest) rfl
        rw [blurs, hc, hletter, Bool.not_false, Bool.true_and, Bool.true_and] at hno
        cases rest with
        | nil => cases hno
        | cons e rest =>
            -- The second letter is in lower case, so that the first one starts a word.
            have hsecond : e.isDigit = false := hno
            have he := hsmall e (List.mem_cons_of_mem d List.mem_cons_self)
            rw [isSmall, hsecond, Bool.or_false] at he
            have hnext : ((e :: rest) ++ ws.flatMap capitalized).head?.any isLower = true := he
            rw [isWordBoundary, hC, hD]
            exact Bool.or_eq_true_iff.mpr (.inr hnext)

theorem Capitalizable.tail {w : List Char} (h : Capitalizable (w :: ws)) : Capitalizable ws :=
  fun w hw => h w (List.mem_cons_of_mem _ hw)

/-- The last character of a word is in lower case or a digit, unless the word is one capital. -/
theorem endsBefore_capitalized {rest : List Char} (hc : c.isDigit = false) (hC : isUpper C = true)
    (hrest : ∀ d ∈ rest, isSmall d = true) (h : Capitalizable ws)
    (hblurs : ∀ w ∈ ws.head?, blurs (c :: rest) w = false) :
    EndsBefore ((C :: rest).getLast (List.cons_ne_nil C rest)) (ws.flatMap capitalized) := by
  cases rest with
  | nil => exact endsBefore_of_not_blurs hc hC h hblurs
  | cons d rest =>
      rw [List.getLast_cons_cons]
      exact endsBefore_of_isSmall (hrest _ (List.getLast_mem _)) h

/-- **Words that do not blur are the words of what they make up.** -/
theorem cut_capitalized (h : Capitalizable ws)
    (hchain : ws.IsChain fun v w => blurs v w = false) :
    Cut (ws.flatMap capitalized) (ws.map titled) := by
  induction ws with
  | nil => exact .nil
  | cons w ws ih =>
      obtain ⟨c, rest, rfl, hc, hsmall⟩ := h w List.mem_cons_self
      obtain ⟨hhead, htail⟩ := List.isChain_cons.mp hchain
      have hcut := ih h.tail htail
      obtain ⟨-, hrest⟩ := List.forall_mem_cons.mp hsmall
      rw [List.flatMap_cons, List.map_cons]
      rcases capitalized_cases hc rest with
        ⟨hdigit, hcapital, htitled⟩ | ⟨hletter, C, hC, -, hcapital, htitled⟩
      · rw [hcapital, htitled]
        have hends : EndsBefore ((c :: rest).getLast (List.cons_ne_nil c rest))
            (ws.flatMap capitalized) := endsBefore_of_isSmall (hsmall _ (List.getLast_mem _)) h.tail
        exact .skip isAlphanumeric_mark
          (.row (row_of_isSmall (digit_facts hdigit).1 hrest hends) hcut)
      · rw [hcapital, htitled]
        have hends := endsBefore_capitalized hletter hC hrest h.tail hhead
        exact .row (row_of_isSmall (isAlphanumeric_of_isUpper hC) hrest hends) hcut

/-- What words make up that do not blur is in camel case. -/
theorem camelCase_of_isChain {first : List Char} (hfirst : first ≠ [])
    (hsmall : ∀ c ∈ first, isSmall c = true) (h : Capitalizable ws)
    (hchain : ws.IsChain fun v w => blurs v w = false) :
    camelCase (first ++ ws.flatMap capitalized) = first ++ ws.flatMap capitalized := by
  obtain ⟨c, rest, rfl⟩ := List.exists_cons_of_ne_nil hfirst
  obtain ⟨hc, hrest⟩ := List.forall_mem_cons.mp hsmall
  have hends := endsBefore_of_isSmall
    (hsmall _ (List.getLast_mem (List.cons_ne_nil c rest))) h
  have hrow := row_of_isSmall (isAlphanumeric_of_isSmall hc) hrest hends
  have hwords := (Cut.row hrow (cut_capitalized h hchain)).words_eq
  have hback : ∀ w ∈ ws, capitalized (lower (titled w)) = capitalized w := by
    intro w hw
    obtain ⟨d, rest, rfl, hd, hd'⟩ := h w hw
    rw [lower_titled hd hd']
  rw [camelCase, hwords]
  dsimp only
  rw [List.flatMap_map, List.flatMap_congr hback]
  exact congrArg (· ++ _) (go_of_isSmall hsmall [])

/-! ### Words that come together -/

/-- Where a word in lower case is what it was, so is every character. -/
theorem lowerIn_of_go (front : List Char) {back : List Char} : ∀ {before : List Char},
    (∀ c ∈ front ++ d :: back, isAlphanumeric c = true) →
    lower.go before (front ++ d :: back) = front ++ d :: back →
      ∃ before', lowerIn before' d back = [d] := by
  induction front with
  | nil =>
      intro before halphanumeric h
      obtain ⟨a, as, hlower, -⟩ := exists_lowerIn before back (halphanumeric d List.mem_cons_self)
      rw [List.nil_append, lower.go, hlower, List.cons_append] at h
      obtain ⟨rfl, -⟩ := List.cons.inj h
      obtain rfl := lowerIn_of_head hlower
      exact ⟨before, hlower⟩
  | cons c front ih =>
      intro before halphanumeric h
      obtain ⟨hc, hrest⟩ := List.forall_mem_cons.mp halphanumeric
      obtain ⟨a, as, hlower, -⟩ := exists_lowerIn before (front ++ d :: back) hc
      rw [List.cons_append, lower.go, hlower, List.cons_append] at h
      obtain ⟨rfl, htail⟩ := List.cons.inj h
      obtain rfl := lowerIn_of_head hlower
      exact ih hrest htail

theorem isAlphanumeric_of_mem_mark : ∀ d ∈ mark word, isAlphanumeric d = false := by
  unfold mark
  split
  · exact List.forall_mem_singleton.mpr isAlphanumeric_mark
  · exact fun _ hmem => nomatch hmem

/-- In camel case, the characters of a word behind the first one are in lower case. -/
theorem CamelCased.lowerIn_eq {name : List Char} (h : CamelCased name) (front : List Char)
    {back : List Char} (hword : c :: (front ++ d :: back) ∈ words name) :
    ∃ before, lowerIn before d back = [d] := by
  have halphanumeric := (cut_words name).alphanumeric _ hword
  rcases h with hnil | ⟨first, rest, hwords, -, hfirst, hrest⟩
  · rw [hnil] at hword
    cases hword
  · rw [hwords] at hword
    rcases List.mem_cons.mp hword with rfl | hword
    · exact lowerIn_of_go (c :: front) halphanumeric hfirst
    · have hcapitalized := hrest _ hword
      have hmarked : capitalized (lower (c :: (front ++ d :: back))) ++ [] =
          mark (c :: (front ++ d :: back)) ++ (c :: (front ++ d :: back) ++ []) := by
        rw [List.append_nil, List.append_nil, hcapitalized]
      obtain ⟨-, -, hgo, -⟩ :=
        capitalized_append_eq halphanumeric isAlphanumeric_of_mem_mark hmarked
      exact lowerIn_of_go front (List.forall_mem_cons.mp halphanumeric).2 hgo

/-- Nothing in front of capitalized words is a letter in lower case. -/
theorem isLower_head_capitalized (h : Capitalizable ws) :
    (ws.flatMap capitalized).head?.any isLower = false := by
  cases ws with
  | nil => rfl
  | cons w ws =>
      obtain ⟨c, rest, rfl, hc, -⟩ := h w List.mem_cons_self
      rw [List.flatMap_cons]
      rcases capitalized_cases hc rest with ⟨-, hcapital, -⟩ | ⟨-, C, hC, -, hcapital, -⟩
      · rw [hcapital]
        exact (by decide : isLower '_' = false)
      · rw [hcapital]
        exact isLower_of_isUpper hC

/-- No capital is in lower case. -/
theorem lowerIn_ne_of_isUpper (hC : isUpper C = true) (hlower : lowerChar C = [c])
    (hc : isSmall c = true) (before after : List Char) : lowerIn before C after ≠ [C] := by
  intro hself
  rcases lowerIn_cases before C after with h | ⟨rfl, h⟩
  · obtain ⟨rfl, -⟩ := List.cons.inj (hlower.symm.trans (h.symm.trans hself))
    exact Bool.false_ne_true ((isUpper_of_isSmall hc).symm.trans hC)
  · exact absurd (List.cons.inj (h.symm.trans hself)).1 (by decide)

/-- **Words that blur are not in camel case** when they are capitalized: their capitals come to
stand in one word. -/
theorem not_camelCased_of_blurs (front : List Char) {v w : List Char}
    (hv : Capitalizable [v, w]) (h : Capitalizable ws) (hblurs : blurs v w = true) :
    ¬ CamelCased (front ++ (capitalized v ++ (capitalized w ++ ws.flatMap capitalized))) := by
  intro hcamel
  obtain ⟨c, rest, rfl, hc, hcsmall⟩ := hv v List.mem_cons_self
  obtain ⟨d, rest', rfl, hd, hdsmall⟩ := hv w (List.mem_cons_of_mem _ List.mem_cons_self)
  cases rest with
  | cons e rest => cases hblurs
  | nil =>
      rw [blurs, Bool.and_eq_true, Bool.and_eq_true, Bool.not_eq_true', Bool.not_eq_true'] at hblurs
      obtain ⟨⟨hcletter, hdletter⟩, hnext⟩ := hblurs
      rcases capitalized_cases hc [] with ⟨hdigit, -⟩ | ⟨-, C, hC, -, hcapital, -⟩
      · exact Bool.false_ne_true (hcletter.symm.trans hdigit)
      rcases capitalized_cases hd rest' with ⟨hdigit, -⟩ | ⟨-, D, hD, hlower, hcapital', -⟩
      · exact Bool.false_ne_true (hdletter.symm.trans hdigit)
      rw [hcapital, hcapital'] at hcamel
      have hafter : (rest' ++ ws.flatMap capitalized).head?.any isLower = false := by
        cases rest' with
        | nil => exact isLower_head_capitalized h
        | cons e rest' => exact (digit_facts hnext).2.2.1
      have hboundary : isWordBoundary C D (rest' ++ ws.flatMap capitalized).head? = false :=
        not_isWordBoundary_of_capital hC hafter
      -- Both capitals are in one word, the second one not in front.
      obtain ⟨word, hword, start, back, rfl⟩ := (cut_words _).exists_mem_of_adjacent rfl
        (isAlphanumeric_of_isUpper hC) (isAlphanumeric_of_isUpper hD) hboundary
      obtain ⟨before, hself⟩ : ∃ before, lowerIn before D back = [D] := by
        cases start with
        | nil => exact hcamel.lowerIn_eq [] hword
        | cons b start =>
            exact hcamel.lowerIn_eq (start ++ [C]) (by simpa using hword)
      have hdsmall := hdsmall d List.mem_cons_self
      exact lowerIn_ne_of_isUpper hD hlower hdsmall before back hself

theorem ne_nil_of_mem_lowerWords {name : List Char} (hw : w ∈ lowerWords name) : w ≠ [] := by
  have hcut := cut_words name
  obtain ⟨word, hword, rfl⟩ := List.mem_map.mp hw
  obtain ⟨c, word, rfl⟩ := List.exists_cons_of_ne_nil (hcut.ne_nil word hword)
  obtain ⟨a, as, hlower, -⟩ := exists_lowerIn [] word
    (hcut.alphanumeric _ hword c List.mem_cons_self)
  rw [lower, lower.go, hlower]
  exact List.cons_ne_nil _ _

theorem Plain.capitalizable {name : List Char} (h : Plain name) :
    Capitalizable (lowerWords name).tail := by
  intro w hw
  have hmem := List.mem_of_mem_tail hw
  obtain ⟨c, rest, rfl⟩ := List.exists_cons_of_ne_nil (ne_nil_of_mem_lowerWords hmem)
  exact ⟨c, rest, rfl, h.capitals _ hw c rfl, h.small _ hmem⟩

/-- **Which plain names have a camel case that stays**: those in which no two words blur behind the
first one. -/
theorem camelCase_camelCase_iff {name : List Char} (h : Plain name) :
    camelCase (camelCase name) = camelCase name ↔
      (lowerWords name).tail.IsChain fun v w => blurs v w = false := by
  cases hwords : words name with
  | nil =>
      have hself : camelCase name = name := by rw [camelCase, hwords]
      have hnone : lowerWords name = [] := by rw [lowerWords, hwords, List.map_nil]
      rw [hself, hself, hnone]
      exact ⟨fun _ => .nil, fun _ => rfl⟩
  | cons first rest =>
      have hlower : lowerWords name = lower first :: rest.map lower := by
        rw [lowerWords, hwords, List.map_cons]
      have hname : camelCase name = lower first ++ (rest.map lower).flatMap capitalized := by
        rw [camelCase, hwords, List.flatMap_map]
      have hfirst : lower first ∈ lowerWords name := hlower ▸ List.mem_cons_self
      have hcapitalizable := h.capitalizable
      rw [hlower, List.tail_cons] at hcapitalizable
      rw [hname, hlower, List.tail_cons]
      constructor
      · intro hself
        rw [List.isChain_iff_forall_rel_of_append_cons_cons]
        intro v w front back hparts
        rw [Bool.eq_false_iff]
        intro hblurs
        rw [hparts] at hcapitalizable hself
        have hpair : Capitalizable [v, w] := fun u hu => hcapitalizable u (by simp at hu ⊢; tauto)
        have hback : Capitalizable back := fun u hu => hcapitalizable u (by simp [hu])
        refine not_camelCased_of_blurs (lower first ++ front.flatMap capitalized) hpair hback
          hblurs ?_
        rw [← camelCase_eq_self_iff]
        simpa [List.flatMap_append, List.flatMap_cons, List.append_assoc] using hself
      · intro hchain
        exact camelCase_of_isChain (ne_nil_of_mem_lowerWords hfirst) (h.small _ hfirst)
          hcapitalizable hchain

end Plain

/-! ### ASCII -/

theorem ascii_table : ∀ n < 128, isAlphanumeric (Char.ofNat n) = true → let c := Char.ofNat n
    (isSmall c = true ∧ (c.isDigit || hasCapital c) = true) ∨
      (c ≠ capitalSigma ∧ lowerChar c = [Char.ofNat (n + 32)] ∧
        isSmall (Char.ofNat (n + 32)) = true ∧ hasCapital (Char.ofNat (n + 32)) = true) := by
  decide +kernel

/-- In lower case, an ASCII letter or digit is one letter with a capital, or a digit. -/
theorem exists_lowerIn_ascii {c : Char} (h : c.toNat < 128) (hc : isAlphanumeric c = true) :
    ∃ d, (∀ before after, lowerIn before c after = [d]) ∧ isSmall d = true ∧
      (d.isDigit || hasCapital d) = true := by
  have htable := ascii_table c.toNat h
  rw [Char.ofNat_toNat] at htable
  rcases htable hc with ⟨hsmall, hcapital⟩ | ⟨hsigma, hlower, hsmall, hcapital⟩
  · exact ⟨c, fun before after => lowerIn_of_isSmall before after hsmall, hsmall, hcapital⟩
  · refine ⟨_, fun before after => ?_, hsmall, by rw [hcapital, Bool.or_true]⟩
    rw [lowerIn, if_neg hsigma, hlower]

theorem ascii_of_mem_go {word : List Char} (hascii : ∀ c ∈ word, c.toNat < 128)
    (hword : ∀ c ∈ word, isAlphanumeric c = true) (before : List Char) :
    (lower.go before word).length = word.length ∧ ∀ d ∈ lower.go before word,
      isSmall d = true ∧ (d.isDigit || hasCapital d) = true := by
  induction word generalizing before with
  | nil => exact ⟨rfl, fun _ hmem => nomatch hmem⟩
  | cons c word ih =>
      obtain ⟨hc, hrest⟩ := List.forall_mem_cons.mp hascii
      obtain ⟨hc', hrest'⟩ := List.forall_mem_cons.mp hword
      obtain ⟨d, hlower, hd⟩ := exists_lowerIn_ascii hc hc'
      obtain ⟨hlength, hgo⟩ := ih hrest hrest' (c :: before)
      rw [lower.go, hlower, List.singleton_append]
      exact ⟨congrArg Nat.succ hlength, List.forall_mem_cons.mpr ⟨hd, hgo⟩⟩

/-- Names in ASCII are plain. -/
theorem plain_of_ascii {name : List Char} (h : ∀ c ∈ name, c.toNat < 128) : Plain name := by
  have hwords : ∀ w ∈ lowerWords name, ∀ d ∈ w,
      isSmall d = true ∧ (d.isDigit || hasCapital d) = true := by
    intro w hw
    obtain ⟨word, hword, rfl⟩ := List.mem_map.mp hw
    have hcut := cut_words name
    exact (ascii_of_mem_go (fun c hc => h c (hcut.mem word hword c hc))
      (hcut.alphanumeric word hword) []).2
  exact ⟨fun w hw d hd => (hwords w hw d hd).1,
    fun w hw d hd => (hwords w (List.mem_of_mem_tail hw) d (List.mem_of_mem_head? hd)).2⟩

/-- Words of more than one letter do not blur. -/
theorem isChain_of_ascii {name : List Char} (h : ∀ c ∈ name, c.toNat < 128)
    (hwords : ∀ w ∈ (words name).tail, w.length ≠ 1) :
    (lowerWords name).tail.IsChain fun v w => blurs v w = false := by
  have hcut := cut_words name
  have hlong : ∀ v ∈ (lowerWords name).tail, v.length ≠ 1 := by
    intro v hv
    rw [lowerWords, ← List.map_tail] at hv
    obtain ⟨word, hword, rfl⟩ := List.mem_map.mp hv
    have hmem := List.mem_of_mem_tail hword
    have hlength := (ascii_of_mem_go (fun c hc => h c (hcut.mem word hmem c hc))
      (hcut.alphanumeric word hmem) []).1
    rw [lower, hlength]
    exact hwords word hword
  rw [List.isChain_iff_forall_rel_of_append_cons_cons]
  intro v w front back hparts
  have hv := hlong v (by rw [hparts]; exact List.mem_append_right _ List.mem_cons_self)
  match v with
  | [] => rfl
  | [c] => exact absurd rfl hv
  | _ :: _ :: _ => rfl

end JsonExpr.Text
