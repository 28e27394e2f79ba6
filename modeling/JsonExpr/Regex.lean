import JsonExpr.Regex.Meaning
import JsonExpr.Regex.Parser
import JsonExpr.Regex.Size

/-!
# Patterns from text

A text denotes a pattern if it is well formed, if its phrases mean something under the flags they
set, and if the pattern is not too large.

Main definitions:

* `JsonExpr.Regex.Pattern.ofText?` — the pattern that a text denotes.
-/

set_option autoImplicit false

namespace JsonExpr.Regex

/-- The pattern that a text denotes, if there is one. -/
def Pattern.ofText? (source : String) : Option Pattern :=
  (Phrase.parse? source).bind fun p =>
    (p.pattern? {}).bind fun (q, _) => if q.fits then some q else none

end JsonExpr.Regex
