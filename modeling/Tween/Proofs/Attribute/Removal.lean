import Mathlib.Data.List.Induction
import Tween.Proofs.Pointwise
import Tween.Proofs.Token.Hidden
import Tween.Proofs.Token.Levels

/-!
# What the removal of attributes deletes

Attributes are removed by their name, at every level of a stream. What is deleted are the pairs of a
pound sign and a body that begins with the name, as they stand in the stream: a position belongs to
such a pair or not, whatever happens at the others (`TokenStream.inPair`). The tokens outside of
pairs stay, in their order, and groups keep their delimiters and their places
(`TokenStream.Without`, `TokenStream.without_iff`).

* `TokenStream.removeAttribute_eq_self_iff`: the streams that nothing is removed from.
* `TokenStream.pairFree_removeAttribute`: where a pound sign always begins an attribute, no pair is
  put together from what stood before and behind a deleted one.
* `TokenStream.removeAttribute_exact`: all of it together.
-/

namespace Tween

/-! ## Pairs -/

namespace TokenStream

variable {name : String} {t u : TokenTree} {ts : TokenStream}

/-- A pound sign at position `i` is directly followed by the body of an attribute called `name`. -/
def pairAt (name : String) (ts : TokenStream) (i : Nat) : Bool :=
  ts[i]?.any (·.isPunct '#') && ts[i + 1]?.any (·.isBodyOf name)

/-- Position `i` belongs to such a pair, as the pound sign or as the body. -/
def inPair (name : String) (ts : TokenStream) : Nat → Bool
  | 0 => pairAt name ts 0
  | i + 1 => pairAt name ts i || pairAt name ts (i + 1)

/-- The tokens at the positions outside of pairs, in their order. -/
def unpaired (name : String) (ts : TokenStream) : TokenStream :=
  ((List.range ts.length).filter (!inPair name ts ·)).filterMap (ts[·]?)

/-- There is no such pair in the stream. Its groups are not looked into. -/
def PairFree (name : String) (ts : TokenStream) : Prop :=
  ∀ i, pairAt name ts i = false

theorem pairAt_zero :
    pairAt name (t :: ts) 0 = (t.isPunct '#' && ts.head?.any (·.isBodyOf name)) := by
  simp [pairAt, List.head?_eq_getElem?]

theorem pairAt_cons_succ (i : Nat) : pairAt name (t :: ts) (i + 1) = pairAt name ts i := rfl

theorem inPair_cons_succ (h : pairAt name (t :: ts) 0 = false) (i : Nat) :
    inPair name (t :: ts) (i + 1) = inPair name ts i := by
  cases i with
  | zero => rw [inPair, inPair, h, pairAt_cons_succ, Bool.false_or]
  | succ i => rw [inPair, inPair, pairAt_cons_succ, pairAt_cons_succ]

/-- A token that begins no pair stays. -/
theorem unpaired_cons (h : pairAt name (t :: ts) 0 = false) :
    unpaired name (t :: ts) = t :: unpaired name ts := by
  have hfirst : inPair name (t :: ts) 0 = false := h
  simp only [unpaired, List.length_cons, List.range_succ_eq_map, List.filter_cons, hfirst,
    List.filter_map, Function.comp_def, inPair_cons_succ h, Bool.not_false, if_true,
    List.filterMap_cons, List.filterMap_map, List.getElem?_cons_zero, List.getElem?_cons_succ]

/-- A pair goes. -/
theorem unpaired_pair (ht : t.isPunct '#' = true) (hu : u.isBodyOf name = true) :
    unpaired name (t :: u :: ts) = unpaired name ts := by
  have hpair : pairAt name (t :: u :: ts) 0 = true := by
    rw [pairAt_zero, ht, List.head?_cons, Option.any_some, hu, Bool.and_true]
  have hbody : pairAt name (u :: ts) 0 = false := by
    rw [pairAt_zero, TokenTree.isPunct_of_isBodyOf hu, Bool.false_and]
  have hfirst : inPair name (t :: u :: ts) 0 = true := hpair
  have hsecond : inPair name (t :: u :: ts) 1 = true := by rw [inPair, hpair, Bool.true_or]
  have hrest : ∀ i, inPair name (t :: u :: ts) (i + 1 + 1) = inPair name ts i := by
    intro i
    rw [← inPair_cons_succ hbody, inPair, inPair, pairAt_cons_succ, pairAt_cons_succ]
  simp only [unpaired, List.length_cons, List.range_succ_eq_map, List.map_cons, List.map_map,
    List.filter_cons, hfirst, hsecond, List.filter_map, Function.comp_def, hrest, Bool.not_true,
    Bool.false_eq_true, if_false, List.filterMap_map, List.getElem?_cons_succ]

theorem mem_of_mem_unpaired (h : t ∈ unpaired name ts) : t ∈ ts := by
  obtain ⟨i, -, hi⟩ := List.mem_filterMap.1 h
  exact List.mem_of_getElem? hi

/-- The removal deletes the pairs, and goes on inside the groups that are left. -/
theorem removeAttribute_eq_map (ts : TokenStream) :
    removeAttribute name ts = (unpaired name ts).map (·.removeAttribute name) := by
  induction ts using List.twoStepInduction with
  | nil => rfl
  | singleton t =>
    have hpair : pairAt name [t] 0 = false := by simp [pairAt_zero]
    rw [unpaired_cons hpair]
    rfl
  | cons_cons t u ts ih ihcons =>
    rw [removeAttribute]
    split
    · rename_i hpair
      rw [Bool.and_eq_true] at hpair
      rw [unpaired_pair hpair.1 hpair.2, ih]
    · rename_i hpair
      have hfree : pairAt name (t :: u :: ts) 0 = false := by
        rw [pairAt_zero, List.head?_cons, Option.any_some]
        exact Bool.eq_false_iff.2 hpair
      rw [unpaired_cons hfree, List.map_cons, ihcons u]

end TokenStream

/-! ## What is left -/

mutual

/-- The second token is the first one without the attributes called `name` inside of it. -/
inductive TokenTree.Without (name : String) : TokenTree → TokenTree → Prop
  | token {t : TokenTree} (ht : ∀ delimiter span inner, t ≠ .group delimiter span inner) :
      TokenTree.Without name t t
  | group (delimiter : Delimiter) (span : Span) {inner inner' : TokenStream}
      (h : TokenStream.Without name inner inner') :
      TokenTree.Without name (.group delimiter span inner) (.group delimiter span inner')

/-- The second stream is the first one without the attributes called `name`: the tokens outside of
pairs, one by one, each without the attributes inside of it. -/
inductive TokenStream.Without (name : String) : TokenStream → TokenStream → Prop
  | intro {ts us : TokenStream}
      (h : List.Forall₂ (TokenTree.Without name) (TokenStream.unpaired name ts) us) :
      TokenStream.Without name ts us

end

namespace TokenStream

variable {name : String} {t u : TokenTree} {ts us : TokenStream}

theorem without_iff_forall₂ :
    Without name ts us ↔ List.Forall₂ (TokenTree.Without name) (unpaired name ts) us :=
  ⟨fun ⟨h⟩ => h, .intro⟩

/-- **The removal leaves what it should**, and nothing else is left of a stream. -/
theorem without_iff : Without name ts us ↔ us = removeAttribute name ts := by
  induction ts using induction_on_groups generalizing us with
  | h ts ih =>
    have htokens : ∀ t ∈ unpaired name ts, ∀ u,
        TokenTree.Without name t u ↔ u = t.removeAttribute name := by
      intro t ht u
      constructor
      · rintro (⟨hleaf⟩ | ⟨delimiter, span, h⟩)
        · cases t with
          | group => exact absurd rfl (hleaf _ _ _)
          | ident | punct | literal => rfl
        · rw [(ih delimiter span _ (mem_of_mem_unpaired ht)).1 h]
          rfl
      · rintro rfl
        cases t with
        | group delimiter span inner =>
          exact .group delimiter span ((ih delimiter span inner (mem_of_mem_unpaired ht)).2 rfl)
        | ident | punct | literal => exact .token fun _ _ _ => TokenTree.noConfusion
    rw [without_iff_forall₂, removeAttribute_eq_map, ← forall₂_map_eq_iff]
    exact forall₂_congr_of_mem htokens

end TokenStream

/-! ## Streams without pairs -/

namespace TokenStream

variable {name : String} {t u : TokenTree} {ts : TokenStream}

theorem pairFree_cons :
    PairFree name (t :: ts) ↔ pairAt name (t :: ts) 0 = false ∧ PairFree name ts := by
  constructor
  · intro h
    exact ⟨h 0, fun i => h (i + 1)⟩
  · rintro ⟨hfirst, hrest⟩ i
    cases i with
    | zero => exact hfirst
    | succ i => exact hrest i

instance decidablePairFree : (ts : TokenStream) → Decidable (PairFree name ts)
  | [] => .isTrue fun _ => rfl
  | _ :: ts =>
    have := decidablePairFree ts
    decidable_of_iff _ pairFree_cons.symm

theorem unpaired_of_pairFree (h : PairFree name ts) : unpaired name ts = ts := by
  induction ts with
  | nil => rfl
  | cons t ts ih =>
    rw [pairFree_cons] at h
    rw [unpaired_cons h.1, ih h.2]

theorem length_unpaired_le : (unpaired name ts).length ≤ ts.length := by
  calc (unpaired name ts).length
      ≤ ((List.range ts.length).filter (!inPair name ts ·)).length := List.length_filterMap_le ..
    _ ≤ (List.range ts.length).length := List.length_filter_le ..
    _ = ts.length := List.length_range

/-- A stream that loses no token has no pair. -/
theorem pairFree_of_length (h : (unpaired name ts).length = ts.length) : PairFree name ts := by
  induction ts with
  | nil => exact fun _ => rfl
  | cons t ts ih =>
    cases hpair : pairAt name (t :: ts) 0 with
    | false =>
      rw [unpaired_cons hpair, List.length_cons, List.length_cons, Nat.add_right_cancel_iff] at h
      exact pairFree_cons.2 ⟨hpair, ih h⟩
    | true =>
      rw [pairAt_zero, Bool.and_eq_true] at hpair
      cases ts with
      | nil => cases hpair.2
      | cons u ts =>
        rw [unpaired_pair hpair.1 hpair.2] at h
        have hle := @length_unpaired_le name ts
        simp only [List.length_cons] at h
        omega

/-- **Exactly the streams without pairs**, at any level, are returned as they are. -/
theorem removeAttribute_eq_self_iff :
    removeAttribute name ts = ts ↔ AtEveryLevel (PairFree name) ts := by
  induction ts using induction_on_groups with
  | h ts ih =>
    have htoken : ∀ t ∈ ts,
        t.removeAttribute name = t ↔ AtEveryLevelInside (PairFree name) t := by
      intro t ht
      cases t with
      | group delimiter span inner =>
        rw [TokenTree.removeAttribute, TokenTree.group.injEq, ih delimiter span inner ht,
          atEveryLevelInside_group, and_iff_right rfl, and_iff_right rfl]
      | ident | punct | literal => simp [TokenTree.removeAttribute, AtEveryLevelInside]
    rw [atEveryLevel_iff, removeAttribute_eq_map]
    constructor
    · intro h
      have hfree : PairFree name ts := by
        refine pairFree_of_length ?_
        conv_rhs => rw [← h]
        rw [List.length_map]
      rw [unpaired_of_pairFree hfree, map_eq_self_iff] at h
      exact ⟨hfree, fun t ht => (htoken t ht).1 (h t ht)⟩
    · rintro ⟨hfree, hinside⟩
      rw [unpaired_of_pairFree hfree, map_eq_self_iff]
      exact fun t ht => (htoken t ht).2 (hinside t ht)

/-- A level of what is left is what is left of a level. -/
theorem IsLevel.of_removeAttribute {level : TokenStream}
    (h : IsLevel level (removeAttribute name ts)) :
    ∃ level', IsLevel level' ts ∧ level = removeAttribute name level' := by
  induction ts using induction_on_groups with
  | h ts ih =>
    cases h with
    | self => exact ⟨ts, .self, rfl⟩
    | inside hgroup hlevel =>
      rw [removeAttribute_eq_map] at hgroup
      obtain ⟨t, ht, hgroup⟩ := List.mem_map.1 hgroup
      cases t with
      | group delimiter span inner =>
        rw [TokenTree.removeAttribute, TokenTree.group.injEq] at hgroup
        obtain ⟨rfl, rfl, rfl⟩ := hgroup
        have hinner := mem_of_mem_unpaired ht
        obtain ⟨level', hlevel', rfl⟩ := ih delimiter span inner hinner hlevel
        exact ⟨level', .inside hinner hlevel', rfl⟩
      | ident | punct | literal => cases hgroup

end TokenStream

/-! ## Pound signs that begin attributes -/

/-- What follows a pound sign in an attribute: the brackets of an outer attribute, which do not
begin with a pound sign themselves, or the exclamation mark of an inner one. -/
def TokenTree.FollowsPound : TokenTree → Prop
  | .punct mark => mark.char = '!'
  | .group .bracket _ inner => ∀ t ∈ inner.head?, t.isPunct '#' = false
  | _ => False

instance : DecidablePred TokenTree.FollowsPound
  | .punct mark => inferInstanceAs (Decidable (mark.char = '!'))
  | .group .bracket _ inner =>
    inferInstanceAs (Decidable (∀ t ∈ inner.head?, t.isPunct '#' = false))
  | .group .parenthesis _ _ | .group .brace _ _ | .group .invisible _ _
  | .ident _ | .literal _ => .isFalse not_false

/-- Every pound sign begins an attribute. The groups of the stream are not looked into. -/
def TokenStream.PoundsBegin (ts : TokenStream) : Prop :=
  ∀ i pound, ts[i]? = some pound → pound.isPunct '#' = true →
    ∃ next ∈ ts[i + 1]?, next.FollowsPound

namespace TokenTree

variable {name : String} {t : TokenTree}

theorem isPunct_removeAttribute (c : Char) : (t.removeAttribute name).isPunct c = t.isPunct c := by
  cases t <;> rfl

theorem FollowsPound.isPunct_eq_false (h : t.FollowsPound) : t.isPunct '#' = false := by
  cases t with
  | punct mark =>
    have hmark : mark.char = '!' := h
    simp [isPunct, hmark]
  | ident | literal | group => rfl

/-- Brackets behind a pound sign still begin with the same word. -/
theorem FollowsPound.isBodyOf_removeAttribute (h : t.FollowsPound) :
    (t.removeAttribute name).isBodyOf name = t.isBodyOf name := by
  match t, h with
  | .punct _, _ => rfl
  | .group .bracket _ [], _ => rfl
  | .group .bracket _ (v :: inner), h =>
    have hv : v.isPunct '#' = false := h v rfl
    rw [removeAttribute, TokenStream.removeAttribute_cons hv]
    cases v <;> rfl

end TokenTree

namespace TokenStream

variable {name : String} {t u : TokenTree} {ts : TokenStream}

theorem poundsBegin_nil : PoundsBegin [] := by
  intro i pound hpound
  simp at hpound

theorem poundsBegin_cons :
    PoundsBegin (t :: ts) ↔
      (t.isPunct '#' = true → ∃ next ∈ ts.head?, next.FollowsPound) ∧ PoundsBegin ts := by
  rw [List.head?_eq_getElem?]
  constructor
  · intro h
    exact ⟨h 0 t rfl, fun i => h (i + 1)⟩
  · rintro ⟨hfirst, hrest⟩ i pound hpound
    cases i with
    | zero =>
      obtain rfl : t = pound := Option.some.inj hpound
      exact hfirst
    | succ i => exact hrest i pound hpound

instance decidablePoundsBegin : (ts : TokenStream) → Decidable (PoundsBegin ts)
  | [] => .isTrue poundsBegin_nil
  | _ :: ts =>
    have := decidablePoundsBegin ts
    decidable_of_iff _ poundsBegin_cons.symm

/-- **No pair is put together** by a removal where every pound sign begins an attribute: in front of
a deleted pair stands no pound sign, and behind one that is kept stands what stood there. -/
theorem pairFree_removeAttribute :
    ∀ ts : TokenStream, PoundsBegin ts → PairFree name (removeAttribute name ts)
  | [], _ => fun _ => rfl
  | [t], _ => pairFree_cons.2 ⟨by simp [pairAt_zero], fun _ => rfl⟩
  | t :: u :: ts, h => by
    have htail := (poundsBegin_cons.1 h).2
    rw [removeAttribute]
    split
    · exact pairFree_removeAttribute ts (poundsBegin_cons.1 htail).2
    · rename_i hpair
      refine pairFree_cons.2 ⟨?_, pairFree_removeAttribute (u :: ts) htail⟩
      rw [pairAt_zero, TokenTree.isPunct_removeAttribute]
      cases ht : t.isPunct '#' with
      | false => rfl
      | true =>
        obtain ⟨next, hnext, hfollows⟩ := (poundsBegin_cons.1 h).1 ht
        obtain rfl : u = next := Option.some.inj hnext
        rw [removeAttribute_cons hfollows.isPunct_eq_false, List.head?_cons, Option.any_some,
          hfollows.isBodyOf_removeAttribute, Bool.true_and]
        rw [ht, Bool.true_and] at hpair
        exact Bool.eq_false_iff.2 hpair

theorem AtEveryLevel.pairFree_removeAttribute (h : AtEveryLevel PoundsBegin ts) :
    AtEveryLevel (PairFree name) (removeAttribute name ts) := by
  intro level hlevel
  obtain ⟨level', hlevel', rfl⟩ := hlevel.of_removeAttribute
  exact TokenStream.pairFree_removeAttribute level' (h level' hlevel')

/-- **What is removed.** Of any stream exactly the tokens outside of pairs are left, at every level
outside of deleted pairs, and exactly the streams without pairs are returned as they are. Where
every pound sign begins an attribute, no pair is left, and another removal changes nothing. -/
theorem removeAttribute_exact (name : String) (ts : TokenStream) :
    (∀ us, Without name ts us ↔ us = removeAttribute name ts) ∧
    (removeAttribute name ts = ts ↔ AtEveryLevel (PairFree name) ts) ∧
    (AtEveryLevel PoundsBegin ts →
      AtEveryLevel (PairFree name) (removeAttribute name ts) ∧
        removeAttribute name (removeAttribute name ts) = removeAttribute name ts) := by
  refine ⟨fun _ => without_iff, removeAttribute_eq_self_iff, fun hpounds => ?_⟩
  have hfree : AtEveryLevel (PairFree name) (removeAttribute name ts) :=
    hpounds.pairFree_removeAttribute
  exact ⟨hfree, removeAttribute_eq_self_iff.2 hfree⟩

end TokenStream

/-! ### Attributes at three levels -/

namespace Layers

open Code

/-- `#![animatable] #[doc] struct S { fields }` -/
def item (fields : TokenStream) : TokenStream :=
  [mark '#', mark '!', brackets [word "animatable"], mark '#', brackets [word "doc"],
    word "struct", word "S", braces fields]

/-- `#[animatable(ignore)] a: (#[animatable] u8), $(#[doc] #[animatable] b: f64)`, where the second
field is captured. -/
def marked : TokenStream :=
  pounded [word "animatable", parens [word "ignore"]] ++
    [word "a", mark ':', parens (pounded [word "animatable"] ++ [word "u8"]), mark ',',
      .group .invisible .callSite (pounded [word "doc"] ++ pounded [word "animatable"] ++
        [word "b", mark ':', word "f64"])]

/-- `a: (u8), $(#[doc] b: f64)` -/
def plain : TokenStream :=
  [word "a", mark ':', parens [word "u8"], mark ',',
    .group .invisible .callSite (pounded [word "doc"] ++ [word "b", mark ':', word "f64"])]

end Layers

open TokenStream in
/-- Three attributes are removed from an item, an inner one and those of another name stay. -/
theorem removeAttribute_exact_layers :
    AtEveryLevel PoundsBegin (Layers.item Layers.marked) ∧
    Without "animatable" (Layers.item Layers.marked) (Layers.item Layers.plain) ∧
    AtEveryLevel (PairFree "animatable") (Layers.item Layers.plain) ∧
    removeAttribute "animatable" (Layers.item Layers.plain) = Layers.item Layers.plain := by
  have hpounds : AtEveryLevel PoundsBegin (Layers.item Layers.marked) := by decide
  obtain ⟨hwithout, -, hleft⟩ := removeAttribute_exact "animatable" (Layers.item Layers.marked)
  have hplain : removeAttribute "animatable" (Layers.item Layers.marked) =
      Layers.item Layers.plain := rfl
  rw [hplain] at hleft
  exact ⟨hpounds, (hwithout _).2 rfl, hleft hpounds⟩

open TokenStream Code in
/-- Of `# #[a] [a]` the pair in the middle is removed, which puts another one together. -/
example : ¬ PairFree "a" (removeAttribute "a"
    ([mark '#'] ++ pounded [word "a"] ++ [brackets [word "a"]])) := by
  decide

end Tween
