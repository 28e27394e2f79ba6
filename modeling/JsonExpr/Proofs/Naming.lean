import JsonExpr.Proofs.Registry
import JsonExpr.Proofs.Text.CamelCase

/-!
# Names that are normalised twice

A name is looked up under its camel case.  Most names are normalised for good: their camel case is
its own camel case.  Those that are not, since words come together in them, resolve to no operator,
but what they are normalised to may be another name of one: `pg s q l` is no operator, it normalises
to `pgSQL`, and that is `PG_SQL`.  The names that do resolve are all normalised for good, since no
name or alias of an operator has a word of one letter behind its first.

Main results:

* `JsonExpr.normalizeName_of_kindOf?` — names of operators are normalised for good;
* `JsonExpr.normalizing_twice` — **which names are normalised for good**, and what names resolve to
  once they are normalised.
-/

set_option autoImplicit false

namespace JsonExpr

open Text (CamelCased Plain camelCase lowerWords blurs words)

theorem normalizeName_normalizeName_iff {name : String} :
    normalizeName (normalizeName name) = normalizeName name ↔
      camelCase (camelCase name.toList) = camelCase name.toList := by
  rw [Registry.normalizeName_eq_iff, normalizeName, Text.camelCaseString, String.toList_ofList]

/-- In the names and aliases of operators, no word behind the first is one letter. -/
theorem words_of_known (k : OperatorKind) : ∀ known ∈ k.name :: k.schema.aliases,
    words known.toList = [] ∨
      (∀ c ∈ known.toList, c.toNat < 128) ∧ ∀ w ∈ (words known.toList).tail, w.length ≠ 1 := by
  have table : ∀ k ∈ OperatorKind.all, ∀ known ∈ k.name :: k.schema.aliases,
      words known.toList = [] ∨ (known.toList.all fun c => c.toNat < 128) = true ∧
        ∀ w ∈ (words known.toList).tail, w.length ≠ 1 := by
    decide +kernel
  intro known hknown
  exact (table k k.mem_all known hknown).imp_right
    (And.imp_left fun hascii => by simpa only [List.all_eq_true, decide_eq_true_eq] using hascii)

/-- Names of operators are normalised for good. -/
theorem normalizeName_of_kindOf? {name : String} {k : OperatorKind}
    (h : Registry.kindOf? name = some k) :
    normalizeName (normalizeName name) = normalizeName name := by
  obtain ⟨known, hknown, heq⟩ := Registry.kindOf?_eq_some_iff.mp h
  rw [heq, normalizeName_normalizeName_iff]
  rcases words_of_known k known hknown with hnone | ⟨hascii, hwords⟩
  · have hself : camelCase known.toList = known.toList := by rw [camelCase, hnone]
    rw [hself, hself]
  · exact (Text.camelCase_camelCase_iff (Text.plain_of_ascii hascii)).mpr
      (Text.isChain_of_ascii hascii hwords)

/-- **Which names are normalised for good.**  A name is normalised for good exactly if what it is
normalised to is in camel case as it stands.  If its words are letters in lower case and ASCII
digits, once they are put in lower case, and each word behind the first starts with a digit or with
a letter that has a capital, as in every name in ASCII, this is so exactly if no word of one letter
behind the first is followed by a word that starts with one letter, and not with two.  A name that
resolves to an operator resolves to the same one when it is normalised, and a name that is
normalised for good resolves to the same operator as before or to none as before. -/
theorem normalizing_twice (name : String) :
    (normalizeName (normalizeName name) = normalizeName name ↔
      CamelCased (normalizeName name).toList) ∧
    (Plain name.toList →
      (normalizeName (normalizeName name) = normalizeName name ↔
        (lowerWords name.toList).tail.IsChain fun v w => blurs v w = false)) ∧
    ((∀ c ∈ name.toList, c.toNat < 128) → Plain name.toList) ∧
    (∀ (r : Registry) k, r.resolve? name = some k →
      r.resolve? (normalizeName name) = some k) ∧
    (normalizeName (normalizeName name) = normalizeName name →
      ∀ r : Registry, r.resolve? (normalizeName name) = r.resolve? name) := by
  have hresolve : normalizeName (normalizeName name) = normalizeName name →
      ∀ r : Registry, r.resolve? (normalizeName name) = r.resolve? name := by
    intro h r
    rw [Registry.resolve?, Registry.kindOf?, h]
    rfl
  refine ⟨?_, fun hplain => ?_, Text.plain_of_ascii, fun r k h => ?_, hresolve⟩
  · rw [Registry.normalizeName_eq_iff, Text.camelCase_eq_self_iff]
  · rw [normalizeName_normalizeName_iff, Text.camelCase_camelCase_iff hplain]
  · rw [hresolve (normalizeName_of_kindOf? (Option.filter_eq_some_iff.mp h).1) r, h]

/-- A word of one letter in front of a longer one, and a name under which an operator is found. -/
theorem positions_are_normalised_for_good :
    (lowerWords "x y position 2d".toList).tail.IsChain (fun v w => blurs v w = false) ∧
      normalizeName (normalizeName "x y position 2d") = normalizeName "x y position 2d" ∧
      CamelCased (normalizeName "x y position 2d").toList ∧
      Registry.full.resolve? "PG_SQL" = some .pgSql ∧
      Registry.full.resolve? (normalizeName "PG_SQL") = some .pgSql := by
  have hascii : ("x y position 2d".toList.all fun c => c.toNat < 128) = true := by decide
  simp only [List.all_eq_true, decide_eq_true_eq] at hascii
  have hchain : (lowerWords "x y position 2d".toList).tail.IsChain
      fun v w => blurs v w = false := by decide +kernel
  obtain ⟨hcamel, hplain, hplainOf, -, -⟩ := normalizing_twice "x y position 2d"
  have hstays := (hplain (hplainOf hascii)).mpr hchain
  have hsql : Registry.full.resolve? "PG_SQL" = some .pgSql := Registry.resolve?_name .pgSql
  obtain ⟨-, -, -, hresolves, -⟩ := normalizing_twice "PG_SQL"
  exact ⟨hchain, hstays, hcamel.mp hstays, hsql, hresolves Registry.full .pgSql hsql⟩

/-- Words of one letter become an acronym, which is one word and the name of an operator. -/
theorem letters_become_an_acronym :
    normalizeName (normalizeName "pg s q l") ≠ normalizeName "pg s q l" ∧
      Registry.full.resolve? (normalizeName "pg s q l") ≠ Registry.full.resolve? "pg s q l" := by
  have hletters : normalizeName "pg s q l" = "pgSQL" :=
    Registry.normalizeName_eq_iff.mpr (by decide +kernel)
  have hacronym : normalizeName "pgSQL" = "pgSql" :=
    Registry.normalizeName_eq_iff.mpr (by decide +kernel)
  have hfound : Registry.full.resolve? "pgSQL" = some .pgSql :=
    Registry.resolve?_full ⟨"pgSql", by decide, by
      rw [hacronym, Registry.normalizeName_eq_iff.mpr]
      decide +kernel⟩
  have hunknown : Registry.kindOf? "pg s q l" = none :=
    Registry.kindOf?_eq_none (by rw [hletters]; decide)
  have hnone : Registry.full.resolve? "pg s q l" = none := by
    rw [Registry.resolve?, hunknown]
    rfl
  rw [hletters, hacronym, hfound, hnone]
  exact ⟨by decide, by decide⟩

end JsonExpr
