import Tween.Token.Basic

/-!
# Invisible groups

A fragment captured by a declarative macro arrives wrapped in an invisible group.
`TokenStream.dissolve` replaces every such group, at any depth, by its contents, which gives the
tokens a user would have typed. Visible groups stay, with their spans.

* `TokenStream.dissolve_append`: dissolving distributes over concatenation.
-/

namespace Tween

mutual

/-- An invisible group gives way to its contents, all other tokens stay. -/
def TokenTree.dissolve : TokenTree → TokenStream
  | .group .invisible _ inner => TokenStream.dissolve inner
  | .group delimiter span inner => [.group delimiter span (TokenStream.dissolve inner)]
  | t => [t]
termination_by structural t => t

/-- The stream without invisible groups. -/
def TokenStream.dissolve : List TokenTree → TokenStream
  | [] => []
  | t :: ts => t.dissolve ++ TokenStream.dissolve ts
termination_by structural ts => ts

end

namespace TokenStream

@[simp] theorem dissolve_nil : dissolve [] = [] := rfl

theorem dissolve_cons (t : TokenTree) (ts : TokenStream) :
    dissolve (t :: ts) = t.dissolve ++ dissolve ts := rfl

theorem dissolve_eq_flatMap (ts : TokenStream) : dissolve ts = ts.flatMap TokenTree.dissolve := by
  induction ts with
  | nil => rfl
  | cons t ts ih => rw [dissolve_cons, ih, List.flatMap_cons]

@[simp] theorem dissolve_append (ts us : TokenStream) :
    dissolve (ts ++ us) = dissolve ts ++ dissolve us := by
  simp only [dissolve_eq_flatMap, List.flatMap_append]

end TokenStream

end Tween
