import JsonExpr.Proofs.Registry
import JsonExpr.Proofs.Text.CamelCase

/-!
# The usual spellings of a name

A name of several words is written in many ways: `pgSql`, `PgSql`, `pg_sql`, `PG-SQL` or `Pg Sql`.
Where its words meet is marked by a capital or by what stands between them, and neither mark is in
all of the spellings.  They are one name all the same: each has the same words but for their case,
so that all of them normalise to the first one and resolve to the same operator.

The words have two letters or more here, and digits only at their end.  A word of one letter is a
capital where it stands behind another one, and then it may be taken for part of an acronym.

Main definitions:

* `JsonExpr.Word` — two or more letters in lower case, and digits;
* `JsonExpr.Word.Written` — a word in lower case, in capitals, or with one capital;
* `JsonExpr.Joined` — words with separators between them;
* `JsonExpr.Spelling` — the usual spellings of a row of words.

Main results:

* `JsonExpr.Spelling.words_written` — the words of a spelling are those that it spells;
* `JsonExpr.usual_spellings_are_one_name` — **all usual spellings of a name are one name**.
-/

set_option autoImplicit false

namespace JsonExpr

open Text (isAlphanumeric isSmall capitalized titled Row Cut)

/-! ### Letters and their capitals -/

namespace Text

section Letters

variable {c : Char} {letters digits : List Char}

theorem letter_table : ∀ n < 128, (Char.ofNat n).isLower = true → let c := Char.ofNat n
    isLower c = true ∧ c.isDigit = false ∧ upperChar c = [c.toUpper] ∧
      isUpper c.toUpper = true ∧ c.toUpper ≠ capitalSigma ∧
      lowerChar c.toUpper = [c] := by
  decide +kernel

/-- A lower-case ASCII letter has one capital. -/
theorem letter_facts (h : c.isLower = true) :
    isLower c = true ∧ c.isDigit = false ∧ upperChar c = [c.toUpper] ∧
      isUpper c.toUpper = true ∧ c.toUpper ≠ capitalSigma ∧
      lowerChar c.toUpper = [c] := by
  have hrange : (decide (c.val ≥ 'a'.val) && decide (c.val ≤ 'z'.val)) = true := h
  have hascii : c.toNat < 128 := by
    rw [Bool.and_eq_true, decide_eq_true_iff, decide_eq_true_iff] at hrange
    exact Nat.lt_of_le_of_lt (UInt32.le_iff_toNat_le.mp hrange.2) (by decide)
  have htable := letter_table c.toNat hascii
  rw [Char.ofNat_toNat] at htable
  exact htable h

theorem isSmall_of_letter (h : c.isLower = true) : isSmall c = true :=
  Bool.or_eq_true_iff.mpr (.inl (letter_facts h).1)

/-- Capitals and digits behind them are one row. -/
theorem row_of_capitals (hletters : ∀ c ∈ letters, c.isLower = true)
    (hdigits : ∀ c ∈ digits, c.isDigit = true) (hne : letters ≠ []) :
    Row [] (letters.map Char.toUpper ++ digits) := by
  induction letters with
  | nil => exact absurd rfl hne
  | cons c letters ih =>
      obtain ⟨hc, hletters⟩ := List.forall_mem_cons.mp hletters
      obtain ⟨-, -, -, hC, -⟩ := letter_facts hc
      have halphanumeric := isAlphanumeric_of_isUpper hC
      cases letters with
      | nil =>
          exact row_of_isSmall halphanumeric (fun d hd => isSmall_of_isDigit (hdigits d hd))
            trivial
      | cons d letters =>
          refine .more halphanumeric ?_ (ih hletters (List.cons_ne_nil d letters))
          -- What comes next is a capital or a digit, and not in lower case.
          have hnext : (letters.map Char.toUpper ++ digits).head?.any isLower = false := by
            cases letters with
            | nil =>
                cases digits with
                | nil => rfl
                | cons e digits => exact (digit_facts (hdigits e List.mem_cons_self)).2.2.1
            | cons e letters =>
                obtain ⟨-, -, -, hE, -⟩ := letter_facts (hletters e (by simp))
                exact isLower_of_isUpper hE
          rw [List.append_nil]
          exact not_isWordBoundary_of_capital hC hnext

/-- In lower case, capitals are the letters that they were made from. -/
theorem go_capitals (hletters : ∀ c ∈ letters, c.isLower = true)
    (hdigits : ∀ c ∈ digits, c.isDigit = true) (before : List Char) :
    lower.go before (letters.map Char.toUpper ++ digits) = letters ++ digits := by
  induction letters generalizing before with
  | nil => exact go_of_isSmall (fun c hc => isSmall_of_isDigit (hdigits c hc)) before
  | cons c letters ih =>
      obtain ⟨hc, hletters⟩ := List.forall_mem_cons.mp hletters
      obtain ⟨-, -, -, -, hsigma, hlower⟩ := letter_facts hc
      rw [List.map_cons, List.cons_append, lower.go, lowerIn, if_neg hsigma, hlower,
        ih hletters]
      rfl

end Letters

end Text

/-! ### Words -/

/-- Two or more lower-case ASCII letters, and then any number of ASCII digits. -/
structure Word where
  letters : List Char
  digits : List Char
  two_le_length : 2 ≤ letters.length
  isLower_of_mem : ∀ c ∈ letters, c.isLower = true
  isDigit_of_mem : ∀ c ∈ digits, c.isDigit = true

namespace Word

/-- The word in lower case. -/
def lower (w : Word) : List Char := w.letters ++ w.digits

/-- The word in capitals. -/
def upper (w : Word) : List Char := w.letters.map Char.toUpper ++ w.digits

/-- The word with a capital in front. -/
def title (w : Word) : List Char :=
  match w.letters with
  | [] => w.digits
  | c :: letters => c.toUpper :: (letters ++ w.digits)

/-- The ways to write a word that stands by itself. -/
inductive Written (w : Word) : List Char → Prop where
  | lower : w.Written w.lower
  | upper : w.Written w.upper
  | title : w.Written w.title

variable {w : Word} {text : List Char}

theorem isSmall_lower (w : Word) : ∀ c ∈ w.lower, isSmall c = true :=
  List.forall_mem_append.mpr ⟨fun c hc => Text.isSmall_of_letter (w.isLower_of_mem c hc),
    fun c hc => Text.isSmall_of_isDigit (w.isDigit_of_mem c hc)⟩

/-- A word starts with two letters. -/
theorem exists_letters (w : Word) : ∃ c d more, w.letters = c :: d :: more ∧ c.isLower = true := by
  match hletters : w.letters with
  | [] => exact absurd w.two_le_length (by rw [hletters]; decide)
  | [c] => exact absurd w.two_le_length (by rw [hletters]; exact (by decide : ¬ 2 ≤ 1))
  | c :: d :: more =>
      exact ⟨c, d, more, rfl, w.isLower_of_mem c (by rw [hletters]; exact List.mem_cons_self)⟩

/-- A word starts with a letter that has one capital, and goes on in lower case. -/
theorem exists_lower_eq (w : Word) : ∃ c d more, w.lower = c :: d :: more ∧
    w.title = c.toUpper :: d :: more ∧ c.isLower = true ∧ ∀ e ∈ d :: more, isSmall e = true := by
  obtain ⟨c, d, more, hletters, hc⟩ := w.exists_letters
  have hlower : w.lower = c :: d :: (more ++ w.digits) := by rw [lower, hletters]; rfl
  refine ⟨c, d, more ++ w.digits, hlower, by rw [title, hletters]; rfl, hc, ?_⟩
  have hsmall := w.isSmall_lower
  rw [hlower] at hsmall
  exact (List.forall_mem_cons.mp hsmall).2

theorem lower_ne_nil (w : Word) : w.lower ≠ [] := by
  obtain ⟨c, d, more, hlower, -⟩ := w.exists_lower_eq
  rw [hlower]
  exact List.cons_ne_nil _ _

/-- A word that stands by itself is one row. -/
theorem Written.row (h : w.Written text) : Row [] text := by
  obtain ⟨c, d, more, hlower, htitle, hc, hsmall⟩ := w.exists_lower_eq
  obtain ⟨-, -, -, hC, -⟩ := Text.letter_facts hc
  cases h with
  | lower =>
      rw [hlower]
      exact Text.row_of_isSmall (Text.isAlphanumeric_of_isSmall (Text.isSmall_of_letter hc)) hsmall
        trivial
  | upper =>
      obtain ⟨_, _, _, hletters, -⟩ := w.exists_letters
      exact Text.row_of_capitals w.isLower_of_mem w.isDigit_of_mem (hletters ▸ List.cons_ne_nil _ _)
  | title =>
      rw [htitle]
      exact Text.row_of_isSmall (Text.isAlphanumeric_of_isUpper hC) hsmall trivial

/-- However a word is written, it is the same in lower case. -/
theorem Written.lower_eq (h : w.Written text) : Text.lower text = w.lower := by
  obtain ⟨c, d, more, hlower, htitle, hc, hsmall⟩ := w.exists_lower_eq
  obtain ⟨-, -, -, -, -, hcapital⟩ := Text.letter_facts hc
  cases h with
  | lower => exact Text.go_of_isSmall w.isSmall_lower []
  | upper => exact Text.go_capitals w.isLower_of_mem w.isDigit_of_mem []
  | title =>
      rw [htitle, hlower, Text.lower, Text.lower.go, Text.lowerIn_nil, hcapital,
        Text.go_of_isSmall hsmall]
      rfl

theorem capitalized_lower (w : Word) : capitalized w.lower = w.title := by
  obtain ⟨c, d, more, hlower, htitle, hc, -⟩ := w.exists_lower_eq
  obtain ⟨-, hdigit, hupper, -⟩ := Text.letter_facts hc
  rw [hlower, htitle, capitalized, if_neg (Bool.eq_false_iff.mp hdigit), hupper]
  rfl

theorem titled_lower (w : Word) : titled w.lower = w.title := by
  obtain ⟨c, d, more, hlower, htitle, hc, -⟩ := w.exists_lower_eq
  obtain ⟨-, -, hupper, -⟩ := Text.letter_facts hc
  rw [hlower, htitle, titled, hupper]
  rfl

/-! ### Words with capitals in front -/

theorem flatMap_capitalized (ws : List Word) :
    (ws.map lower).flatMap capitalized = ws.flatMap title := by
  rw [List.flatMap_map]
  exact List.flatMap_congr fun w _ => w.capitalized_lower

theorem capitalizable_lower (ws : List Word) : Text.Capitalizable (ws.map lower) := by
  intro v hv
  obtain ⟨w, -, rfl⟩ := List.mem_map.mp hv
  obtain ⟨c, d, more, hlower, -, hc, -⟩ := w.exists_lower_eq
  obtain ⟨-, -, hupper, hC, -, hcapital⟩ := Text.letter_facts hc
  have hhas : Text.hasCapital c = true := Text.hasCapital_iff.mpr ⟨_, hupper, hC, hcapital⟩
  exact ⟨c, d :: more, hlower, by rw [hhas, Bool.or_true], w.isSmall_lower⟩

/-- Words of two letters or more do not blur. -/
theorem isChain_lower (ws : List Word) :
    (ws.map lower).IsChain fun v w => Text.blurs v w = false := by
  refine (List.isChain_map lower).mpr (List.Pairwise.isChain (List.pairwise_of_forall ?_))
  intro v w
  obtain ⟨c, d, more, hlower, -⟩ := v.exists_lower_eq
  rw [hlower]
  rfl

/-- Words with capitals in front are found again. -/
theorem cut_title (ws : List Word) : Cut (ws.flatMap title) (ws.map title) := by
  have hcut := Text.cut_capitalized (capitalizable_lower ws) (isChain_lower ws)
  rwa [flatMap_capitalized, List.map_map, List.map_congr_left fun w _ => w.titled_lower] at hcut

/-- A word in lower case ends in front of words with capitals. -/
theorem row_lower (w : Word) (ws : List Word) : Row (ws.flatMap title) w.lower := by
  obtain ⟨c, d, more, hlower, -, hc, hsmall⟩ := w.exists_lower_eq
  have hlast := w.isSmall_lower _ (List.getLast_mem w.lower_ne_nil)
  have hends := Text.endsBefore_of_isSmall hlast (capitalizable_lower ws)
  simp only [flatMap_capitalized, hlower] at hends ⊢
  exact Text.row_of_isSmall (Text.isAlphanumeric_of_isSmall (Text.isSmall_of_letter hc)) hsmall
    hends

end Word

/-! ### Spellings -/

/-- An ASCII character that is neither a letter nor a digit. -/
def IsSeparator (c : Char) : Prop := c.toNat < 128 ∧ c.isAlphanum = false

instance (c : Char) : Decidable (IsSeparator c) := inferInstanceAs (Decidable (_ ∧ _))

/-- Words that stand by themselves, with separators between them. -/
inductive Joined : List Word → List Char → Prop where
  | last {w : Word} {text : List Char} : w.Written text → Joined [w] text
  | more {w : Word} {ws : List Word} {text separators rest : List Char} : w.Written text →
      separators ≠ [] → (∀ c ∈ separators, IsSeparator c) → Joined ws rest →
      Joined (w :: ws) (text ++ separators ++ rest)

/-- Words in camel case. -/
def camelSpelling (first : Word) (rest : List Word) : List Char :=
  first.lower ++ rest.flatMap Word.title

/-- The usual spellings of a row of words. -/
inductive Spelling (first : Word) (rest : List Word) : List Char → Prop where
  /-- As in `pgSql`. -/
  | camelCase : Spelling first rest (camelSpelling first rest)
  /-- As in `PgSql`. -/
  | pascalCase : Spelling first rest ((first :: rest).flatMap Word.title)
  /-- As in `pg_sql`, `PG-SQL` or `Pg Sql`. -/
  | joined {text : List Char} : Joined (first :: rest) text → Spelling first rest text
  /-- With separators around it, as in `--pg-sql`. -/
  | surrounded {before text after : List Char} : (∀ c ∈ before, IsSeparator c) →
      Spelling first rest text → (∀ c ∈ after, IsSeparator c) →
      Spelling first rest (before ++ text ++ after)

theorem separator_table : ∀ n < 128, (Char.ofNat n).isAlphanum = false →
    isAlphanumeric (Char.ofNat n) = false := by
  decide +kernel

theorem IsSeparator.isAlphanumeric_eq {c : Char} (h : IsSeparator c) :
    isAlphanumeric c = false := by
  have htable := separator_table c.toNat h.1
  rw [Char.ofNat_toNat] at htable
  exact htable h.2

/-- Words are found between separators. -/
theorem Joined.words_written {ws : List Word} {text : List Char} (h : Joined ws text) :
    List.Forall₂ Word.Written ws (Text.words text) := by
  induction h with
  | last hwritten =>
      rw [Text.words_of_row hwritten.row]
      exact .cons hwritten .nil
  | @more w ws text separators rest hwritten hne hseparators _ ih =>
      obtain ⟨s, separators, rfl⟩ := List.exists_cons_of_ne_nil hne
      obtain ⟨hs, hseparators⟩ := List.forall_mem_cons.mp hseparators
      have hskip := fun c hc => (hseparators c hc).isAlphanumeric_eq
      rw [List.append_assoc, List.cons_append, Text.words_append_separator hs.isAlphanumeric_eq,
        Text.words_of_row hwritten.row, Text.words_separators_append hskip]
      exact .cons hwritten ih

theorem forall₂_title (ws : List Word) : List.Forall₂ Word.Written ws (ws.map Word.title) :=
  List.forall₂_map_right_iff.mpr (List.forall₂_same.mpr fun _ _ => .title)

variable {first : Word} {rest : List Word} {text : List Char}

/-- **The words of a spelling are those that it spells.** -/
theorem Spelling.words_written (h : Spelling first rest text) :
    List.Forall₂ Word.Written (first :: rest) (Text.words text) := by
  induction h with
  | camelCase =>
      have hcut := Cut.row (first.row_lower rest) (Word.cut_title rest)
      rw [camelSpelling, hcut.words_eq]
      exact .cons .lower (forall₂_title rest)
  | pascalCase =>
      rw [(Word.cut_title (first :: rest)).words_eq]
      exact forall₂_title (first :: rest)
  | joined hjoined => exact hjoined.words_written
  | surrounded hbefore _ hafter ih =>
      rwa [Text.words_append_separators fun c hc => (hafter c hc).isAlphanumeric_eq,
        Text.words_separators_append fun c hc => (hbefore c hc).isAlphanumeric_eq]

/-- However words are written, they are the same with capitals in front. -/
theorem flatMap_capitalized_of_written {ws : List Word} {rows : List (List Char)}
    (h : List.Forall₂ Word.Written ws rows) :
    (rows.flatMap fun row => capitalized (Text.lower row)) = ws.flatMap Word.title := by
  induction h with
  | nil => rfl
  | @cons w row ws rows hwritten _ ih =>
      rw [List.flatMap_cons, List.flatMap_cons, hwritten.lower_eq, w.capitalized_lower, ih]

/-- What has the words of a name is normalised to its camel case. -/
theorem camelCase_of_words_written
    (h : List.Forall₂ Word.Written (first :: rest) (Text.words text)) :
    Text.camelCase text = camelSpelling first rest := by
  obtain ⟨row, rows, hfirst, hrest, hwords⟩ := List.forall₂_cons_left_iff.mp h
  rw [Text.camelCase, hwords]
  dsimp only
  rw [hfirst.lower_eq, flatMap_capitalized_of_written hrest, camelSpelling]

/-- **All usual spellings of a name are one name.**  They normalise to the camel case of its words,
which normalises to itself, and each resolves to the operator to which any other does, or to none
if it does. -/
theorem usual_spellings_are_one_name (first : Word) (rest : List Word) :
    (∀ name : String, Spelling first rest name.toList →
      normalizeName name = String.ofList (camelSpelling first rest)) ∧
    normalizeName (String.ofList (camelSpelling first rest)) =
      String.ofList (camelSpelling first rest) ∧
    ∀ name other : String, Spelling first rest name.toList → Spelling first rest other.toList →
      ∀ r : Registry, r.resolve? name = r.resolve? other := by
  have hname : ∀ name : String, Spelling first rest name.toList →
      normalizeName name = String.ofList (camelSpelling first rest) := by
    intro name h
    rw [Registry.normalizeName_eq_iff, String.toList_ofList]
    exact camelCase_of_words_written h.words_written
  refine ⟨hname, hname _ ?_, fun name other h h' r => ?_⟩
  · rw [String.toList_ofList]
    exact .camelCase
  · rw [Registry.resolve?, Registry.resolve?, Registry.kindOf?, Registry.kindOf?, hname name h,
      hname other h']

def Word.pg : Word :=
  ⟨['p', 'g'], [], by decide, List.all_eq_true.mp (by decide), List.forall_mem_nil _⟩

def Word.sql : Word :=
  ⟨['s', 'q', 'l'], [], by decide, List.all_eq_true.mp (by decide), List.forall_mem_nil _⟩

/-- Words that are written in two ways, with separators in front and between them. -/
theorem pg_sql_is_found_in_any_spelling :
    Spelling .pg [.sql] "-Pg sql".toList ∧ Spelling .pg [.sql] "PG_SQL".toList ∧
      normalizeName "-Pg sql" = "pgSql" ∧
      Registry.full.resolve? "-Pg sql" = some .pgSql := by
  have hspaced : Spelling .pg [.sql] "-Pg sql".toList := by
    have htext : "-Pg sql".toList =
        ['-'] ++ (Word.pg.title ++ [' '] ++ Word.sql.lower) ++ [] := by decide
    have hblank : ∀ c ∈ [' '], IsSeparator c := List.forall_mem_singleton.mpr (by decide)
    rw [htext]
    exact .surrounded (List.forall_mem_singleton.mpr (by decide))
      (.joined (.more .title (List.cons_ne_nil _ _) hblank (.last .lower)))
      (List.forall_mem_nil _)
  have hcapitals : Spelling .pg [.sql] "PG_SQL".toList := by
    have htext : "PG_SQL".toList = Word.pg.upper ++ ['_'] ++ Word.sql.upper := by decide
    have hmark : ∀ c ∈ ['_'], IsSeparator c := List.forall_mem_singleton.mpr (by decide)
    rw [htext]
    exact .joined (.more .upper (List.cons_ne_nil _ _) hmark (.last .upper))
  obtain ⟨hname, -, hresolve⟩ := usual_spellings_are_one_name .pg [.sql]
  refine ⟨hspaced, hcapitals, ?_, ?_⟩
  · exact hname _ hspaced
  · exact (hresolve _ _ hspaced hcapitals Registry.full).trans (Registry.resolve?_name .pgSql)

end JsonExpr
