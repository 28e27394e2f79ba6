import JsonExpr.Proofs.Json.Characters
import JsonExpr.Proofs.Text.Ellipsis
import JsonExpr.TypeCheck
import Mathlib.Data.List.Forall2

/-!
# What a check reports

A check reports all values that are not of their types, each on a line of its own.  Values may hold
any text, but they are shown as JSON text, where a line break in a string is written as two letters,
and a text that is cut has no others than those it had.  So the message has as many lines as there
are failures, unless a name or a string that a type lists breaks a line: these are copied as they
are.

Main definitions:

* `JsonExpr.HasType` — a value, which may be absent, is of a type;
* `JsonExpr.TypeCheck.Item.verbatim` — the characters that a line copies;
* `JsonExpr.TypeCheck.Shows` — how a value is shown;
* `JsonExpr.TypeCheck.Describes` — the line on an item.

Main results:

* `JsonExpr.ExpectedType.accepts_iff` — a type accepts the values that are of it;
* `JsonExpr.TypeCheck.Shows.length_le` — no value is shown by more than 51 characters;
* `JsonExpr.TypeCheck.failures_are_reported_line_by_line` — **a check passes if all values are of
  their types, and its message has one line for each that is not**.
-/

set_option autoImplicit false

namespace JsonExpr

/-! ### Values of types -/

/-- A value, which may be absent, is of a type. -/
inductive HasType : Option Json → ExpectedType → Prop where
  | any (v : Json) : HasType (some v) (.basic .any)
  | string (s : String) : HasType (some (.string s)) (.basic .string)
  | number (n : Number) : HasType (some (.number n)) (.basic .number)
  | boolean (b : Bool) : HasType (some (.bool b)) (.basic .boolean)
  | array (items : List Json) : HasType (some (.array items)) (.basic .array)
  | object (fields : Dict Json) : HasType (some (.object fields)) (.basic .object)
  | null : HasType (some .null) (.basic .null)
  | absent : HasType none (.basic .undefined)
  | listed {s : String} {members : List String} :
      s ∈ members → HasType (some (.string s)) (.literal members)
  | member {v : Option Json} {t : ExpectedType} {members : List ExpectedType} :
      t ∈ members → HasType v t → HasType v (.union members)

theorem BasicType.accepts_iff (v : Option Json) (kind : BasicType) :
    kind.accepts v = true ↔ HasType v (.basic kind) := by
  constructor
  · intro h
    cases kind <;> rcases v with _ | _ | _ | _ | _ | _ | _ <;> first | constructor | cases h
  · intro h
    cases h <;> rfl

namespace ExpectedType

mutual

/-- A type accepts the values that are of it. -/
theorem accepts_iff (v : Option Json) (t : ExpectedType) : t.accepts v = true ↔ HasType v t := by
  cases t with
  | basic kind => exact kind.accepts_iff v
  | literal members =>
      constructor
      · intro h
        unfold accepts at h
        split at h
        · exact .listed (List.contains_iff_mem.mp h)
        · cases h
      · intro h
        cases h with
        | listed hs => exact List.contains_iff_mem.mpr hs
  | union members =>
      rw [accepts, acceptsAny_iff v members]
      constructor
      · rintro ⟨t, ht, h⟩
        exact .member ht h
      · intro h
        cases h with
        | @member _ t _ ht h => exact ⟨t, ht, h⟩

theorem acceptsAny_iff (v : Option Json) (ts : List ExpectedType) :
    acceptsAny v ts = true ↔ ∃ t ∈ ts, HasType v t := by
  cases ts with
  | nil => simp [acceptsAny]
  | cons t rest =>
      simp [acceptsAny, accepts_iff v t, acceptsAny_iff v rest]

end

end ExpectedType

instance (v : Option Json) (t : ExpectedType) : Decidable (HasType v t) :=
  decidable_of_iff _ (t.accepts_iff v)

/-! ### Characters that are copied -/

mutual

/-- The characters of the strings that a type lists. -/
def ExpectedType.verbatim : ExpectedType → List Char
  | basic _ => []
  | literal members => members.flatMap String.toList
  | union members => verbatims members

/-- The characters of the strings that several types list. -/
def ExpectedType.verbatims : List ExpectedType → List Char
  | [] => []
  | t :: rest => t.verbatim ++ verbatims rest

end

namespace TypeCheck

open Text (Printable)

/-- The characters that the line on an item copies. -/
def Item.verbatim (i : Item) : List Char := (i.name.getD "").toList ++ i.expected.verbatim

/-- A text whose control characters are all copied. -/
def Copies (copied text : List Char) : Prop := ∀ c ∈ text, ' ' ≤ c ∨ c ∈ copied

namespace Copies

variable {copied text first second : List Char}

theorem append (h₁ : Copies copied first) (h₂ : Copies copied second) :
    Copies copied (first ++ second) := List.forall_mem_append.mpr ⟨h₁, h₂⟩

theorem mono {more : List Char} (h : Copies copied text) (hsub : copied ⊆ more) :
    Copies more text := fun c hc => (h c hc).imp_right fun hmem => hsub hmem

theorem of_subset (h : text ⊆ copied) : Copies copied text := fun _ hc => .inr (h hc)

theorem of_printable (h : Printable text) : Copies copied text := fun c hc => .inl (h c hc)

theorem joinWith {delimiter : List Char} {texts : List (List Char)}
    (hdelimiter : Printable delimiter) (h : ∀ text ∈ texts, Copies copied text) :
    Copies copied (Text.joinWith delimiter texts) :=
  Text.forall_mem_joinWith (fun c hc => .inl (hdelimiter c hc)) h

end Copies

theorem toList_joinStrings (delimiter : String) (pieces : List String) :
    (Text.joinStrings delimiter pieces).toList =
      Text.joinWith delimiter.toList (pieces.map String.toList) :=
  String.toList_intercalate

theorem copies_quoted {copied : List Char} {s : String} (h : s.toList ⊆ copied) :
    Copies copied (ExpectedType.quoted s).toList := by
  rw [ExpectedType.quoted, String.toList_append, String.toList_append]
  exact ((Copies.of_printable (by decide)).append (.of_subset h)).append (.of_printable (by decide))

mutual

/-- The text of a type copies the strings that the type lists. -/
theorem copies_text (t : ExpectedType) : Copies t.verbatim t.text.toList := by
  cases t with
  | basic kind => cases kind <;> exact .of_printable (by decide)
  | literal members =>
      rw [ExpectedType.text, String.toList_append, String.toList_append, toList_joinStrings,
        List.map_map]
      have hmembers : Copies (ExpectedType.literal members).verbatim
          (Text.joinWith ", ".toList (members.map (String.toList ∘ ExpectedType.quoted))) := by
        refine .joinWith (by decide) fun text h => ?_
        obtain ⟨s, hs, rfl⟩ := List.mem_map.mp h
        exact copies_quoted fun c hc => List.mem_flatMap.mpr ⟨s, hs, hc⟩
      exact ((Copies.of_printable (by decide)).append hmembers).append (.of_printable (by decide))
  | union members =>
      rw [ExpectedType.text, toList_joinStrings]
      refine .joinWith (by decide) fun text h => ?_
      obtain ⟨s, hs, rfl⟩ := List.mem_map.mp h
      exact copies_texts members s hs

theorem copies_texts (ts : List ExpectedType) :
    ∀ s ∈ ExpectedType.texts ts, Copies (ExpectedType.verbatims ts) s.toList := by
  cases ts with
  | nil => exact fun _ h => nomatch h
  | cons t rest =>
      refine List.forall_mem_cons.mpr ⟨(copies_text t).mono (List.subset_append_left _ _), ?_⟩
      exact fun s hs => (copies_texts rest s hs).mono (List.subset_append_right _ _)

end

/-! ### Values in messages -/

/-- How a value is shown: the word for a value that is absent, a JSON text of less than 50
characters, or the first 48 characters of a longer one, without white space behind them, and three
dots. -/
inductive Shows : Option Json → List Char → Prop where
  | absent : Shows none "undefined".toList
  | whole {v : Json} : v.render.length < 50 → Shows (some v) v.render
  | cut {v : Json} {start blanks : List Char} : 50 ≤ v.render.length →
      v.render.take 48 = start ++ blanks → (∀ c ∈ blanks, Text.isBlank c = true) →
      (∀ c ∈ start.getLast?, Text.isBlank c = false) → Shows (some v) (start ++ "...".toList)

theorem shows_shown (v : Option Json) : Shows v (Item.shown v).toList := by
  cases v with
  | none => exact .absent
  | some v =>
      have hshown : (Item.shown (some v)).toList = Text.shorten 50 v.render := by
        rw [Item.shown, Text.shortenString, String.toList_ofList, Json.compact,
          String.toList_ofList]
        rfl
      rw [hshown]
      by_cases h : v.render.length < 50
      · rw [Text.shorten_of_lt h]
        exact .whole h
      · rw [Text.shorten_of_le (Nat.le_of_not_lt h)]
        have htrimmed := Text.trimmedTo_trim (v.render.take 48)
        obtain ⟨blanks, htake, hblanks⟩ := htrimmed.exists_after fun c hc =>
          v.isBlank_head_render c (by rwa [List.head?_take, if_neg (by decide)] at hc)
        exact .cut (Nat.le_of_not_lt h) htake hblanks htrimmed.last

namespace Shows

variable {v : Option Json} {text : List Char}

/-- No value is shown by more than 51 characters. -/
theorem length_le (h : Shows v text) : text.length ≤ 51 := by
  cases h with
  | absent => decide
  | whole h => omega
  | @cut v start blanks _ htake _ _ =>
      have hlength := List.length_take_le 48 v.render
      rw [htake, List.length_append] at hlength
      rw [List.length_append]
      have hdots : "...".toList.length = 3 := by decide
      omega

/-- No value is shown with control characters. -/
theorem printable (h : Shows v text) : Printable text := by
  cases h with
  | absent => decide
  | @whole v _ => exact v.printable_render
  | @cut v start blanks _ htake _ _ =>
      have hstart : start ⊆ v.render := fun c hc =>
        List.mem_of_mem_take (htake ▸ List.mem_append_left blanks hc : c ∈ v.render.take 48)
      exact (v.printable_render.of_subset hstart).append (by decide)

end Shows

/-! ### Lines -/

/-- The line on an item: its name if it has one, its value if it has to be shown, and the type. -/
inductive Describes : Item → List Char → Prop where
  | missing (name : String) (t : ExpectedType) :
      Describes ⟨some name, none, t⟩
        ("- Missing required property \"" ++ name ++ "\" (type: " ++ t.text ++ ")").toList
  | property (name : String) {v : Json} (t : ExpectedType) {shown : List Char} :
      Shows (some v) shown → Describes ⟨some name, some v, t⟩
        (("- Property \"" ++ name ++ "\" (value: ").toList ++ shown ++
          (") is not of type: " ++ t.text).toList)
  | unnamed {v : Option Json} (t : ExpectedType) {shown : List Char} :
      Shows v shown →
        Describes ⟨none, v, t⟩ ("- ".toList ++ shown ++ (" is not of type: " ++ t.text).toList)

theorem describes_line (i : Item) : Describes i i.line.toList := by
  obtain ⟨_ | name, v, t⟩ := i
  · have hline : (Item.line ⟨none, v, t⟩).toList =
        "- ".toList ++ (Item.shown v).toList ++ (" is not of type: " ++ t.text).toList := by
      simp [Item.line]
    rw [hline]
    exact .unnamed t (shows_shown v)
  · cases v with
    | none => exact .missing name t
    | some v =>
        have hline : (Item.line ⟨some name, some v, t⟩).toList =
            ("- Property \"" ++ name ++ "\" (value: ").toList ++ (Item.shown (some v)).toList ++
              (") is not of type: " ++ t.text).toList := by
          simp [Item.line]
        rw [hline]
        exact .property name t (shows_shown (some v))

/-- A line has no control characters but those that it copies. -/
theorem Describes.copies {i : Item} {line : List Char} (h : Describes i line) :
    Copies i.verbatim line := by
  have hplain : ∀ {text : List Char}, Printable text → Copies i.verbatim text :=
    fun h => .of_printable h
  have hname : ∀ name ∈ i.name, Copies i.verbatim name.toList := fun name h => by
    rw [Item.verbatim, Option.mem_def.mp h]
    exact .of_subset (List.subset_append_left _ _)
  have htype : Copies i.verbatim i.expected.text.toList :=
    (copies_text i.expected).mono (List.subset_append_right _ _)
  cases h with
  | missing name t =>
      simp only [String.toList_append]
      exact ((((hplain (by decide)).append (hname name rfl)).append (hplain (by decide))).append
        htype).append (hplain (by decide))
  | property name t hshown =>
      simp only [String.toList_append]
      exact ((((hplain (by decide)).append (hname name rfl)).append (hplain (by decide))).append
        (hplain hshown.printable)).append ((hplain (by decide)).append htype)
  | unnamed t hshown =>
      simp only [String.toList_append]
      exact ((hplain (by decide)).append (hplain hshown.printable)).append
        ((hplain (by decide)).append htype)

/-! ### The message -/

/-- The items whose values are not of their types. -/
def failing (items : List Item) : List Item :=
  items.filter fun i => ¬ HasType i.value i.expected

theorem failing_eq_nil_iff (items : List Item) :
    failing items = [] ↔ ∀ i ∈ items, HasType i.value i.expected := by
  simp [failing, List.filter_eq_nil_iff]

theorem failures_eq (items : List Item) : failures items = (failing items).map Item.line := by
  rw [failures, failing]
  congr 1
  refine List.filter_congr fun i _ => ?_
  rw [Item.holds, Bool.eq_iff_iff, Bool.not_eq_true', decide_eq_true_iff, ← i.expected.accepts_iff,
    Bool.not_eq_true]

theorem check_eq_ok_iff (items : List Item) : check items = .ok () ↔ failing items = [] := by
  rw [check, failures_eq]
  cases failing items <;> simp

/-- The lines of the message, with what stands between them. -/
theorem check_of_failing {items : List Item} (h : failing items ≠ []) :
    ∃ message, check items = .error message ∧
      message.toList = Text.joinWith ['\n'] ((failing items).map fun i => i.line.toList) := by
  refine ⟨Text.joinStrings "\n" (failures items), ?_, ?_⟩
  · rw [check, failures_eq]
    cases hfailing : failing items with
    | nil => exact absurd hfailing h
    | cons i rest => rfl
  · rw [toList_joinStrings, failures_eq, List.map_map]
    rfl

/-- **Failures are reported line by line.**  A check passes if and only if all values are of their
types.  Otherwise its message has one line for each item that fails, in order, which describes it,
if the items copy no line break.  Whatever the values are, the message has no other control
characters but those that are copied, and no value takes more than 51 characters. -/
theorem failures_are_reported_line_by_line (items : List Item) :
    (check items = .ok () ↔ ∀ i ∈ items, HasType i.value i.expected) ∧
    (¬ (∀ i ∈ items, HasType i.value i.expected) → ∃ message, check items = .error message ∧
      ((∀ i ∈ items, '\n' ∉ i.verbatim) →
        List.Forall₂ Describes (failing items) (message.toList.splitOn '\n')) ∧
      ∀ c ∈ message.toList, ' ' ≤ c ∨ c = '\n' ∨ ∃ i ∈ items, c ∈ i.verbatim) ∧
    ∀ v shown, Shows v shown → shown.length ≤ 51 := by
  refine ⟨(check_eq_ok_iff items).trans (failing_eq_nil_iff items), fun h => ?_,
    fun _ _ => Shows.length_le⟩
  have hfailing : failing items ≠ [] := fun heq => h ((failing_eq_nil_iff items).mp heq)
  obtain ⟨message, hcheck, hmessage⟩ := check_of_failing hfailing
  have hcopies : ∀ i ∈ failing items, Copies i.verbatim i.line.toList :=
    fun i _ => (describes_line i).copies
  refine ⟨message, hcheck, fun hplain => ?_, fun c hc => ?_⟩
  · have hlines : ∀ line ∈ (failing items).map fun i => i.line.toList, '\n' ∉ line := by
      intro line hline hbreak
      obtain ⟨i, hi, rfl⟩ := List.mem_map.mp hline
      rcases hcopies i hi _ hbreak with hspace | hmem
      · exact absurd hspace (by decide)
      · exact hplain i (List.mem_of_mem_filter hi) hmem
    rw [hmessage, Text.joinWith, List.splitOn_intercalate _ hlines (by simpa using hfailing),
      List.forall₂_map_right_iff]
    exact List.forall₂_same.mpr fun i _ => describes_line i
  · rw [hmessage] at hc
    rcases Text.mem_joinWith hc with hbreak | ⟨line, hline, hc⟩
    · exact .inr (.inl (List.mem_singleton.mp hbreak))
    · obtain ⟨i, hi, rfl⟩ := List.mem_map.mp hline
      exact (hcopies i hi c hc).imp_right fun hmem => .inr ⟨i, List.mem_of_mem_filter hi, hmem⟩

/-- A text of two lines is shown on one, and the value between the two that fail is of its type. -/
theorem two_failures_are_two_lines :
    let items : List Item :=
      [⟨some "count", some (.string "one\ntwo"), .basic .number⟩,
        ⟨some "values", some (.array []), .union [.basic .null, .basic .array]⟩,
        ⟨none, none, .literal ["up", "down"]⟩]
    ∃ message, check items = .error message ∧ (message.toList.splitOn '\n').length = 2 := by
  intro items
  obtain ⟨-, hfails, -⟩ := failures_are_reported_line_by_line items
  obtain ⟨message, hcheck, hlines, -⟩ := hfails (by decide)
  exact ⟨message, hcheck, (hlines (by decide)).length_eq.symm⟩

end TypeCheck

end JsonExpr
