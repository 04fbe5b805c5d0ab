import Mathlib.Data.List.Forall2
import Tween.Token.Basic

/-!
# Reading a list item by item

A traversal that may fail succeeds exactly if it does so on every item, with the answers in the
order of the items (`mapM_eq_some_iff`, `mapM_eq_ok_iff`). `List.Forall₂` relates the items to the
answers one by one. If it fails, then on the first item it fails on (`mapM_eq_error_iff`,
`exists_mapM_eq_error_iff`). One more item on which it succeeds adds an answer, or leaves the error
that is found elsewhere (`mapM_insert`).
-/

namespace Tween

variable {α β ε : Type} {xs : List α} {ys : List β}

theorem forall₂_eq_map_iff {f : β → α} :
    List.Forall₂ (fun x y => x = f y) xs ys ↔ xs = ys.map f := by
  rw [← List.forall₂_map_right_iff (R := Eq), List.forall₂_eq_eq_eq]

theorem forall₂_map_eq_iff {f : α → β} :
    List.Forall₂ (fun x y => y = f x) xs ys ↔ ys = xs.map f := by
  have hflip : ∀ x y, y = f x ↔ f x = y := fun x y => eq_comm
  simp only [hflip]
  rw [← List.forall₂_map_left_iff (R := Eq), List.forall₂_eq_eq_eq, eq_comm]

theorem map_eq_self_iff {f : α → α} : xs.map f = xs ↔ ∀ x ∈ xs, f x = x := by
  have h : xs.map f = xs.map id ↔ ∀ x ∈ xs, f x = x := List.map_inj_left
  rwa [List.map_id] at h

theorem forall₂_congr_of_mem {R S : α → β → Prop} (h : ∀ x ∈ xs, ∀ y, R x y ↔ S x y) :
    List.Forall₂ R xs ys ↔ List.Forall₂ S xs ys := by
  induction xs generalizing ys with
  | nil => rw [List.forall₂_nil_left_iff, List.forall₂_nil_left_iff]
  | cons x xs ih =>
    rw [List.forall_mem_cons] at h
    simp only [List.forall₂_cons_left_iff, h.1, ih h.2]

theorem exists_of_forall₂_of_mem {R : α → β → Prop} (h : List.Forall₂ R xs ys) {x : α}
    (hx : x ∈ xs) : ∃ y ∈ ys, R x y := by
  induction h with
  | nil => simp at hx
  | cons hR _ ih =>
    rcases List.mem_cons.1 hx with rfl | hx
    · exact ⟨_, List.mem_cons_self, hR⟩
    · obtain ⟨y, hy, hR⟩ := ih hx
      exact ⟨y, List.mem_cons_of_mem _ hy, hR⟩

theorem exists_forall₂_iff {R : α → β → Prop} :
    (∃ ys, List.Forall₂ R xs ys) ↔ ∀ x ∈ xs, ∃ y, R x y := by
  constructor
  · rintro ⟨ys, h⟩ x hx
    obtain ⟨y, -, hR⟩ := exists_of_forall₂_of_mem h hx
    exact ⟨y, hR⟩
  · intro h
    induction xs with
    | nil => exact ⟨[], .nil⟩
    | cons x xs ih =>
      rw [List.forall_mem_cons] at h
      obtain ⟨y, hy⟩ := h.1
      obtain ⟨ys, hys⟩ := ih h.2
      exact ⟨y :: ys, .cons hy hys⟩

theorem mapM_eq_some_iff {f : α → Option β} :
    xs.mapM f = some ys ↔ List.Forall₂ (fun x y => f x = some y) xs ys := by
  induction xs generalizing ys with
  | nil => cases ys <;> simp
  | cons x xs ih =>
    rw [List.mapM_cons]
    cases hx : f x with
    | none => cases ys <;> simp [hx]
    | some y =>
      cases ys with
      | nil => cases xs.mapM f <;> simp
      | cons z zs =>
        rw [List.forall₂_cons, ← ih, hx]
        cases xs.mapM f <;> simp

theorem mapM_map_eq_some {γ : Type} {f : β → Option γ} {g : α → β} {h : α → γ}
    (hfg : ∀ x, f (g x) = some (h x)) (xs : List α) :
    (xs.map g).mapM f = some (xs.map h) := by
  rw [mapM_eq_some_iff, List.forall₂_map_left_iff, List.forall₂_map_right_iff]
  exact List.forall₂_same.2 fun x _ => hfg x

theorem mapM_eq_ok_iff {f : α → Except ε β} :
    xs.mapM f = .ok ys ↔ List.Forall₂ (fun x y => f x = .ok y) xs ys := by
  induction xs generalizing ys with
  | nil => cases ys <;> simp [pure, Except.pure]
  | cons x xs ih =>
    rw [List.mapM_cons]
    cases hx : f x with
    | error e => cases ys <;> simp [bind, Except.bind, hx]
    | ok y =>
      cases ys with
      | nil => cases xs.mapM f <;> simp [bind, Except.bind, pure, Except.pure]
      | cons z zs =>
        rw [List.forall₂_cons, ← ih, hx]
        cases xs.mapM f <;> simp [bind, Except.bind, pure, Except.pure]

theorem mapM_eq_error_iff {f : α → Except ε β} {e : ε} :
    xs.mapM f = .error e ↔ ∃ front x back, xs = front ++ x :: back ∧
      (∀ y ∈ front, ∃ z, f y = .ok z) ∧ f x = .error e := by
  constructor
  · intro h
    induction xs with
    | nil => cases h
    | cons x xs ih =>
      rw [List.mapM_cons] at h
      cases hx : f x with
      | error e' =>
        rw [hx] at h
        cases h
        exact ⟨[], x, xs, rfl, by simp, hx⟩
      | ok y =>
        cases hxs : xs.mapM f with
        | ok ys =>
          rw [hx, hxs] at h
          cases h
        | error e' =>
          rw [hx, hxs] at h
          cases h
          obtain ⟨front, x', back, rfl, hfront, hx'⟩ := ih hxs
          exact ⟨x :: front, x', back, rfl, List.forall_mem_cons.2 ⟨⟨y, hx⟩, hfront⟩, hx'⟩
  · rintro ⟨front, x, back, rfl, hfront, hx⟩
    obtain ⟨ys, hys⟩ := exists_forall₂_iff.2 hfront
    rw [List.mapM_append, mapM_eq_ok_iff.2 hys, List.mapM_cons, hx]
    rfl

theorem exists_eq_ok_iff {x : Except ε α} : (∃ y, x = .ok y) ↔ ¬ ∃ e, x = .error e := by
  cases x <;> simp

/-- A traversal fails if it fails on one of the items. -/
theorem exists_mapM_eq_error_iff {f : α → Except ε β} :
    (∃ e, xs.mapM f = .error e) ↔ ∃ x ∈ xs, ∃ e, f x = .error e := by
  have hok : (∃ ys, xs.mapM f = .ok ys) ↔ ∀ x ∈ xs, ∃ y, f x = .ok y := by
    simp only [mapM_eq_ok_iff, exists_forall₂_iff]
  simp only [exists_eq_ok_iff] at hok
  rw [← not_iff_not, hok]
  simp only [not_exists, not_and]

theorem mapM_insert {f : α → Except ε β} {x : α} {y : β} (hx : f x = .ok y) (xs zs : List α) :
    (∃ e, (xs ++ zs).mapM f = .error e ∧ (xs ++ x :: zs).mapM f = .error e) ∨
      ∃ us vs, (xs ++ zs).mapM f = .ok (us ++ vs) ∧
        (xs ++ x :: zs).mapM f = .ok (us ++ y :: vs) := by
  rw [List.mapM_append, List.mapM_append, List.mapM_cons, hx]
  cases xs.mapM f with
  | error e => exact .inl ⟨e, rfl, rfl⟩
  | ok us =>
    cases zs.mapM f with
    | error e => exact .inl ⟨e, rfl, rfl⟩
    | ok vs => exact .inr ⟨us, vs, rfl, rfl⟩

end Tween
