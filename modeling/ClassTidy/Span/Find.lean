/-
  ClassTidy.Span.Find — all class strings of a document.
-/
import ClassTidy.Span.Call
import ClassTidy.Span.Merge
import ClassTidy.Span.Rule

namespace ClassTidy.Span

/-- The spans of rules and of calls in a document, merged. -/
def find (t : Text) (rules : List Rule) (names : List Text) : Except Breakdown (List Span) :=
  match ofRules t rules with
  | .ok ss => .ok (merge ss (ofCalls t names))
  | .error b => .error b

end ClassTidy.Span
