import Tween.Attribute.Removal
import Tween.Token.Invisible

/-!
# What holds of every token of a stream

`TokenStream.Everywhere p` says that `p` holds of every token and every group of a stream, at any
depth. A stream all of whose groups are visible is its own dissolved form
(`TokenStream.dissolve_eq_self`), and one without pound signs has no attribute to remove
(`TokenStream.removeAttribute_eq_self`). A property that does not look into groups survives the
removal of attributes and of invisible groups (`TokenStream.Everywhere.removeAttribute`,
`TokenStream.Everywhere.dissolve`).
-/

namespace Tween

mutual

/-- `p` holds of the token, and of everything inside it. -/
def TokenTree.Everywhere (p : TokenTree → Prop) : TokenTree → Prop
  | .group delimiter span inner => p (.group delimiter span inner) ∧ TokenStream.Everywhere p inner
  | t => p t
termination_by structural t => t

/-- `p` holds of every token of the stream, at any depth. -/
def TokenStream.Everywhere (p : TokenTree → Prop) : List TokenTree → Prop
  | [] => True
  | t :: ts => t.Everywhere p ∧ TokenStream.Everywhere p ts
termination_by structural ts => ts

end

section
variable {p : TokenTree → Prop} [DecidablePred p]

mutual

instance TokenTree.decidableEverywhere : (t : TokenTree) → Decidable (t.Everywhere p)
  | .group delimiter span inner =>
    have := TokenStream.decidableEverywhere inner
    inferInstanceAs (Decidable (p (.group delimiter span inner) ∧ TokenStream.Everywhere p inner))
  | .ident word => inferInstanceAs (Decidable (p (.ident word)))
  | .punct mark => inferInstanceAs (Decidable (p (.punct mark)))
  | .literal value => inferInstanceAs (Decidable (p (.literal value)))
termination_by structural t => t

instance TokenStream.decidableEverywhere :
    (ts : List TokenTree) → Decidable (TokenStream.Everywhere p ts)
  | [] => inferInstanceAs (Decidable True)
  | t :: ts =>
    have := TokenTree.decidableEverywhere t
    have := TokenStream.decidableEverywhere ts
    inferInstanceAs (Decidable (t.Everywhere p ∧ TokenStream.Everywhere p ts))
termination_by structural ts => ts

end

end

namespace TokenTree

/-- The token is no invisible group. -/
def IsVisible (t : TokenTree) : Prop :=
  ∀ span inner, t ≠ .group .invisible span inner

/-- The token is no pound sign. -/
def IsNoPound (t : TokenTree) : Prop :=
  t.isPunct '#' = false

instance : DecidablePred IsVisible
  | .group .invisible span inner => .isFalse fun h => h span inner rfl
  | .group .parenthesis _ _ | .group .bracket _ _ | .group .brace _ _
  | .ident _ | .punct _ | .literal _ => .isTrue (by rintro _ _ ⟨⟩)

instance : DecidablePred IsNoPound :=
  fun t => inferInstanceAs (Decidable (t.isPunct '#' = false))

theorem Everywhere.self {p : TokenTree → Prop} {t : TokenTree} (h : t.Everywhere p) : p t := by
  cases t with
  | group delimiter span inner => exact h.1
  | ident word => exact h
  | punct mark => exact h
  | literal value => exact h

/-- No group is a pound sign, whatever it holds. -/
theorem isNoPound_group (delimiter : Delimiter) (span : Span) (inner : TokenStream) :
    (group delimiter span inner).IsNoPound := rfl

end TokenTree

namespace TokenStream

variable {p : TokenTree → Prop} {t : TokenTree} {ts us : TokenStream}

@[simp] theorem everywhere_nil : Everywhere p [] := trivial

@[simp] theorem everywhere_cons :
    Everywhere p (t :: ts) ↔ t.Everywhere p ∧ Everywhere p ts := Iff.rfl

@[simp] theorem everywhere_append :
    Everywhere p (ts ++ us) ↔ Everywhere p ts ∧ Everywhere p us := by
  induction ts with
  | nil => simp
  | cons t ts ih => rw [List.cons_append, everywhere_cons, everywhere_cons, ih, and_assoc]

theorem Everywhere.of_mem (h : Everywhere p ts) (ht : t ∈ ts) : p t := by
  obtain ⟨front, back, rfl⟩ := List.append_of_mem ht
  exact (everywhere_append.1 h).2.1.self

/-- All groups of the stream are visible, at any depth. -/
abbrev Visible (ts : TokenStream) : Prop :=
  Everywhere TokenTree.IsVisible ts

/-- The stream has no pound sign, at any depth. -/
abbrev PoundFree (ts : TokenStream) : Prop :=
  Everywhere TokenTree.IsNoPound ts

end TokenStream

/-! ## Streams that a transformation leaves alone -/

mutual

theorem TokenTree.dissolve_eq_self :
    ∀ t : TokenTree, t.Everywhere TokenTree.IsVisible → t.dissolve = [t]
  | .ident _, _ | .punct _, _ | .literal _, _ => rfl
  | .group .invisible span inner, h => absurd rfl (h.1 span inner)
  | .group .parenthesis _ inner, h | .group .bracket _ inner, h | .group .brace _ inner, h => by
    simp only [TokenTree.dissolve, TokenStream.dissolve_eq_self inner h.2]

theorem TokenStream.dissolve_eq_self :
    ∀ ts : TokenStream, TokenStream.Visible ts → TokenStream.dissolve ts = ts
  | [], _ => rfl
  | t :: ts, h => by
    rw [TokenStream.dissolve_cons, TokenTree.dissolve_eq_self t h.1,
      TokenStream.dissolve_eq_self ts h.2]
    rfl

end

mutual

theorem TokenTree.removeAttribute_eq_self (name : String) :
    ∀ t : TokenTree, t.Everywhere TokenTree.IsNoPound → t.removeAttribute name = t
  | .ident _, _ | .punct _, _ | .literal _, _ => rfl
  | .group _ _ inner, h => by
    simp only [TokenTree.removeAttribute, TokenStream.removeAttribute_eq_self name inner h.2]

/-- Where there is no pound sign there is no attribute. -/
theorem TokenStream.removeAttribute_eq_self (name : String) :
    ∀ ts : TokenStream, TokenStream.PoundFree ts → TokenStream.removeAttribute name ts = ts
  | [], _ => rfl
  | t :: ts, h => by
    rw [TokenStream.removeAttribute_cons h.1.self, TokenTree.removeAttribute_eq_self name t h.1,
      TokenStream.removeAttribute_eq_self name ts h.2]

end

namespace TokenTree

variable {t : TokenTree}

theorem ident?_removeAttribute (name : String) (t : TokenTree) :
    (t.removeAttribute name).ident? = t.ident? := by
  cases t <;> rfl

/-- A pound sign and a bracket group are no identifiers. -/
theorem ident?_of_isPunct {c : Char} (ht : t.isPunct c = true) : t.ident? = none := by
  cases t <;> simp_all [isPunct, ident?]

theorem ident?_of_isBodyOf {name : String} (ht : t.isBodyOf name = true) : t.ident? = none := by
  cases t <;> simp_all [isBodyOf, ident?]

end TokenTree

namespace TokenStream

/-- What follows tokens without pound signs loses its attributes on its own. -/
theorem removeAttribute_append_of_poundFree {name : String} {ts : TokenStream} (h : PoundFree ts)
    (us : TokenStream) : removeAttribute name (ts ++ us) = ts ++ removeAttribute name us := by
  induction ts with
  | nil => rfl
  | cons t ts ih =>
    rw [List.cons_append, removeAttribute_cons h.1.self, ih h.2,
      TokenTree.removeAttribute_eq_self name t h.1, List.cons_append]

/-- The identifiers outside of groups stay. -/
theorem idents_removeAttribute (name : String) :
    ∀ ts : TokenStream, idents (removeAttribute name ts) = idents ts
  | [] => rfl
  | [t] => by
    simp only [removeAttribute, idents, List.filterMap_cons, TokenTree.ident?_removeAttribute]
  | t :: u :: ts => by
    have htail := idents_removeAttribute name (u :: ts)
    have hrest := idents_removeAttribute name ts
    simp only [idents] at htail hrest ⊢
    rw [removeAttribute]
    split
    · rename_i hpair
      rw [Bool.and_eq_true] at hpair
      rw [hrest, List.filterMap_cons_none (TokenTree.ident?_of_isPunct hpair.1),
        List.filterMap_cons_none (TokenTree.ident?_of_isBodyOf hpair.2)]
    · rw [List.filterMap_cons, List.filterMap_cons, TokenTree.ident?_removeAttribute, htail]

end TokenStream

/-! ## Properties that do not look into groups -/

/-- Whether `p` holds of a group does not depend on what the group holds. -/
def TokenTree.Shallow (p : TokenTree → Prop) : Prop :=
  ∀ delimiter span inner inner', p (.group delimiter span inner) → p (.group delimiter span inner')

theorem TokenTree.shallow_isVisible : TokenTree.Shallow TokenTree.IsVisible := by
  intro delimiter span inner inner' h span' inner'' he
  simp only [TokenTree.group.injEq] at he
  exact h span inner (by rw [he.1])

mutual

theorem TokenTree.visible_dissolve : ∀ t : TokenTree, TokenStream.Visible t.dissolve
  | .ident _ | .punct _ | .literal _ => ⟨fun _ _ => TokenTree.noConfusion, trivial⟩
  | .group .invisible _ inner => TokenStream.visible_dissolve inner
  | .group .parenthesis _ inner | .group .bracket _ inner | .group .brace _ inner =>
    ⟨⟨by simp [TokenTree.IsVisible], TokenStream.visible_dissolve inner⟩, trivial⟩

/-- No invisible group is left. -/
theorem TokenStream.visible_dissolve :
    ∀ ts : TokenStream, TokenStream.Visible (TokenStream.dissolve ts)
  | [] => trivial
  | t :: ts => TokenStream.everywhere_append.2
      ⟨TokenTree.visible_dissolve t, TokenStream.visible_dissolve ts⟩

end

section
variable {p : TokenTree → Prop}

mutual

theorem TokenTree.Everywhere.dissolve (hp : TokenTree.Shallow p) :
    ∀ {t : TokenTree}, t.Everywhere p → TokenStream.Everywhere p t.dissolve
  | .ident _, h | .punct _, h | .literal _, h => ⟨h, trivial⟩
  | .group .invisible _ _, h => TokenStream.Everywhere.dissolve hp h.2
  | .group .parenthesis _ _, h | .group .bracket _ _, h | .group .brace _ _, h =>
    ⟨⟨hp _ _ _ _ h.1, TokenStream.Everywhere.dissolve hp h.2⟩, trivial⟩

theorem TokenStream.Everywhere.dissolve (hp : TokenTree.Shallow p) :
    ∀ {ts : TokenStream}, TokenStream.Everywhere p ts →
      TokenStream.Everywhere p (TokenStream.dissolve ts)
  | [], _ => trivial
  | _ :: _, h => TokenStream.everywhere_append.2
      ⟨TokenTree.Everywhere.dissolve hp h.1, TokenStream.Everywhere.dissolve hp h.2⟩

end

mutual

theorem TokenTree.Everywhere.removeAttribute (hp : TokenTree.Shallow p) (name : String) :
    ∀ {t : TokenTree}, t.Everywhere p → (t.removeAttribute name).Everywhere p
  | .ident _, h | .punct _, h | .literal _, h => h
  | .group _ _ _, h => ⟨hp _ _ _ _ h.1, TokenStream.Everywhere.removeAttribute hp name h.2⟩

theorem TokenStream.Everywhere.removeAttribute (hp : TokenTree.Shallow p) (name : String) :
    ∀ {ts : TokenStream}, TokenStream.Everywhere p ts →
      TokenStream.Everywhere p (TokenStream.removeAttribute name ts)
  | [], _ => trivial
  | [_], h => ⟨TokenTree.Everywhere.removeAttribute hp name h.1, trivial⟩
  | t :: u :: ts, h => by
    rw [TokenStream.removeAttribute]
    split
    · exact TokenStream.Everywhere.removeAttribute hp name h.2.2
    · exact ⟨TokenTree.Everywhere.removeAttribute hp name h.1,
        TokenStream.Everywhere.removeAttribute hp name h.2⟩

end

end

end Tween
