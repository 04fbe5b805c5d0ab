import Tween.Token.Basic

/-!
# Removing attributes by name

The markers on fields mean nothing outside the pass that reads them, so the host is emitted without
them. `TokenStream.removeAttribute name` drops each pound sign that is directly followed by a
bracket group beginning with the identifier `name`, together with that group, at any depth.

The pair is recognised on the tokens as they are: a pound sign that is not followed by such a group
stays, and what comes after it is looked at anew.
-/

namespace Tween

/-- A bracket group that begins with the identifier `name`. -/
def TokenTree.isBodyOf (name : String) : TokenTree → Bool
  | .group .bracket _ (.ident word :: _) => word.text == name
  | _ => false

mutual

/-- A group without the attributes called `name` in it. -/
def TokenTree.removeAttribute (name : String) : TokenTree → TokenTree
  | .group delimiter span inner => .group delimiter span (TokenStream.removeAttribute name inner)
  | t => t
termination_by structural t => t

/-- The stream without the attributes called `name`. -/
def TokenStream.removeAttribute (name : String) : List TokenTree → TokenStream
  | [] => []
  | [t] => [t.removeAttribute name]
  | t :: u :: ts =>
    if t.isPunct '#' && u.isBodyOf name then
      TokenStream.removeAttribute name ts
    else
      t.removeAttribute name :: TokenStream.removeAttribute name (u :: ts)
termination_by structural ts => ts

end

namespace TokenStream

variable {name : String} {t u : TokenTree} {ts : TokenStream}

theorem removeAttribute_pair (ht : t.isPunct '#' = true) (hu : u.isBodyOf name = true) :
    removeAttribute name (t :: u :: ts) = removeAttribute name ts := by
  simp [removeAttribute, ht, hu]

/-- Everything but a pound sign is kept where it stands. -/
theorem removeAttribute_cons (ht : t.isPunct '#' = false) :
    removeAttribute name (t :: ts) = t.removeAttribute name :: removeAttribute name ts := by
  cases ts with
  | nil => rfl
  | cons u ts => simp [removeAttribute, ht]

/-- A pound sign is kept if what follows is not the body of an attribute called `name`. -/
theorem removeAttribute_cons_of_body (hu : u.isBodyOf name = false) :
    removeAttribute name (t :: u :: ts) =
      t.removeAttribute name :: removeAttribute name (u :: ts) := by
  simp [removeAttribute, hu]

end TokenStream

end Tween
