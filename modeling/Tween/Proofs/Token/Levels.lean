import Tween.Token.Basic

/-!
# The levels of a stream

A stream is its own first level, and below it stand the levels of what its groups hold.
`TokenStream.AtEveryLevel p` says that `p` holds of all of them. Where `Everywhere` looks at single
tokens, a property of a level may compare a token with its neighbours.

* `TokenStream.atEveryLevel_iff`: what holds at every level of a stream holds of the stream, and at
  every level inside its tokens.
* `TokenStream.induction_on_groups`: a fact about streams that follows from the same fact about the
  contents of their groups holds of all streams.
-/

namespace Tween

namespace TokenStream

/-- A level of a stream is the stream itself, or a level of what one of its groups holds. -/
inductive IsLevel (level : TokenStream) : TokenStream → Prop
  | self : IsLevel level level
  | inside {delimiter : Delimiter} {span : Span} {inner ts : TokenStream}
      (hgroup : .group delimiter span inner ∈ ts) (h : IsLevel level inner) : IsLevel level ts

/-- `p` holds of the stream and of the contents of its groups, at any depth. -/
def AtEveryLevel (p : TokenStream → Prop) (ts : TokenStream) : Prop :=
  ∀ level, IsLevel level ts → p level

/-- `p` holds of what the token holds at any depth, if it is a group. -/
def AtEveryLevelInside (p : TokenStream → Prop) (t : TokenTree) : Prop :=
  ∀ delimiter span inner, t = .group delimiter span inner → AtEveryLevel p inner

variable {p : TokenStream → Prop} {ts : TokenStream}

theorem atEveryLevel_iff :
    AtEveryLevel p ts ↔ p ts ∧ ∀ t ∈ ts, AtEveryLevelInside p t := by
  constructor
  · intro h
    refine ⟨h ts .self, ?_⟩
    rintro t ht delimiter span inner rfl level hlevel
    exact h level (.inside ht hlevel)
  · rintro ⟨hself, hinside⟩ level hlevel
    cases hlevel with
    | self => exact hself
    | inside hgroup hlevel => exact hinside _ hgroup _ _ _ rfl level hlevel

theorem atEveryLevelInside_group {delimiter : Delimiter} {span : Span} {inner : TokenStream} :
    AtEveryLevelInside p (.group delimiter span inner) ↔ AtEveryLevel p inner := by
  constructor
  · intro h
    exact h delimiter span inner rfl
  · rintro h _ _ _ ⟨⟩
    exact h

/-- What is inherited from the contents of groups holds of all streams. -/
@[elab_as_elim]
theorem induction_on_groups {motive : TokenStream → Prop}
    (h : ∀ ts, (∀ delimiter span inner, .group delimiter span inner ∈ ts → motive inner) →
      motive ts) (ts : TokenStream) : motive ts :=
  h ts fun _ _ inner _ => induction_on_groups h inner
termination_by ts
decreasing_by
  rename_i hgroup
  have hsize := List.sizeOf_lt_of_mem hgroup
  simp only [TokenTree.group.sizeOf_spec] at hsize
  omega

end TokenStream

/-! ## Deciding what holds at every level -/

section
variable {p : TokenStream → Prop} [DecidablePred p]

open TokenStream

mutual

instance TokenTree.decidableAtEveryLevelInside :
    (t : TokenTree) → Decidable (AtEveryLevelInside p t)
  | .group _ _ inner =>
    have := TokenStream.decidableAtEveryLevelInside inner
    decidable_of_iff (p inner ∧ ∀ t ∈ inner, AtEveryLevelInside p t)
      (atEveryLevel_iff.symm.trans atEveryLevelInside_group.symm)
  | .ident _ | .punct _ | .literal _ => .isTrue (by rintro _ _ _ ⟨⟩)
termination_by structural t => t

instance TokenStream.decidableAtEveryLevelInside :
    (ts : List TokenTree) → Decidable (∀ t ∈ ts, AtEveryLevelInside p t)
  | [] => .isTrue (List.forall_mem_nil _)
  | t :: ts =>
    have := TokenTree.decidableAtEveryLevelInside t
    have := TokenStream.decidableAtEveryLevelInside ts
    decidable_of_iff (AtEveryLevelInside p t ∧ ∀ t ∈ ts, AtEveryLevelInside p t)
      List.forall_mem_cons.symm
termination_by structural ts => ts

end

instance (ts : TokenStream) : Decidable (AtEveryLevel p ts) :=
  decidable_of_iff (p ts ∧ ∀ t ∈ ts, AtEveryLevelInside p t) atEveryLevel_iff.symm

end

end Tween
