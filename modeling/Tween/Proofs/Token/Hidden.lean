import Tween.Proofs.Host.Unmarked

/-!
# Attributes that an invisible group hides

The markers are read once invisible groups are dissolved, but removed from the tokens as they are.
The two do not see the same attributes. An invisible group may stand around a pound sign, around the
brackets after it, around the name in the brackets, or empty in between: what it hides is an
attribute to the reader, and none to the removal (`TokenStream.hidesAttribute`). That is how a
captured `$m:meta` comes in `#[$m]` (`dissolve_removeAttribute_captured`).

* `TokenStream.dissolve_removeAttribute`: where nothing is hidden, removing attributes and
  dissolving groups commute.
* `TokenStream.count_removeAttribute_dissolve`: where something is hidden, more is left of the
  tokens as they are than of the dissolved ones.
* `TokenStream.dissolve_removeAttribute_iff`: the two commute exactly where nothing is hidden.
* `Host.removeAttribute_complete`: the same of an item that is read, and that it is emitted without
  any marker then.
-/

namespace Tween

/-! ## Where two streams meet -/

namespace TokenStream

/-- The last token is a pound sign. -/
def endsInPound (ts : TokenStream) : Bool :=
  ts.getLast?.any (·.isPunct '#')

/-- The first token is a bracket group that begins with the identifier `name`. -/
def beginsWithBody (name : String) (ts : TokenStream) : Bool :=
  ts.head?.any (·.isBodyOf name)

end TokenStream

mutual

/-- An attribute called `name` is hidden somewhere inside the token. -/
def TokenTree.hidesAttribute (name : String) : TokenTree → Bool
  | .group _ _ inner => TokenStream.hidesAttribute name inner
  | _ => false
termination_by structural t => t

/-- Somewhere in the stream, outside of the attributes called `name`, a pound sign and the body of
such an attribute follow one another when invisible groups are dissolved, and do not as they are. -/
def TokenStream.hidesAttribute (name : String) : List TokenTree → Bool
  | [] => false
  | [t] => t.hidesAttribute name
  | t :: u :: ts =>
    if t.isPunct '#' && u.isBodyOf name then
      TokenStream.hidesAttribute name ts
    else
      TokenStream.endsInPound t.dissolve &&
          TokenStream.beginsWithBody name (TokenStream.dissolve (u :: ts)) ||
        t.hidesAttribute name || TokenStream.hidesAttribute name (u :: ts)
termination_by structural ts => ts

end

namespace TokenTree

variable {name : String} {t : TokenTree}

theorem isPunct_of_isBodyOf (h : t.isBodyOf name = true) (c : Char) : t.isPunct c = false := by
  cases t with
  | group => rfl
  | ident | punct | literal => cases h

theorem isBodyOf_of_isPunct {c : Char} (h : t.isPunct c = true) : t.isBodyOf name = false := by
  obtain ⟨mark, rfl, -⟩ := TokenStream.exists_punct_of_isPunct h
  rfl

end TokenTree

namespace TokenStream

variable {name : String} {t u : TokenTree} {ts us : TokenStream}

theorem eq_append_of_endsInPound (h : endsInPound ts = true) :
    ∃ front pound, ts = front ++ [pound] ∧ pound.isPunct '#' = true := by
  obtain ⟨pound, hlast, hpound⟩ := (Option.any_eq_true _ _).1 h
  exact ⟨_, pound, (List.dropLast_append_getLast? pound hlast).symm, hpound⟩

theorem endsInPound_cons_cons : endsInPound (t :: u :: ts) = endsInPound (u :: ts) := by
  simp [endsInPound]

/-- Attributes are removed from two streams one by one, unless one is put together by the two. -/
theorem removeAttribute_append :
    ∀ ts : TokenStream, (endsInPound ts && beginsWithBody name us) = false →
      removeAttribute name (ts ++ us) = removeAttribute name ts ++ removeAttribute name us
  | [], _ => rfl
  | [t], h => by
    cases us with
    | nil => rfl
    | cons u us =>
      have hpair : (t.isPunct '#' && u.isBodyOf name) = false := h
      simp [removeAttribute, hpair]
  | t :: u :: ts, h => by
    simp only [List.cons_append, removeAttribute]
    split
    · refine removeAttribute_append ts ?_
      cases ts with
      | nil => rfl
      | cons v ts => simpa only [endsInPound_cons_cons] using h
    · rw [endsInPound_cons_cons] at h
      have := removeAttribute_append (u :: ts) h
      rw [List.cons_append] at this
      rw [this, List.cons_append]

theorem not_beginsWithBody_of_isPunct {c : Char} (ht : t.isPunct c = true) :
    beginsWithBody name (t :: ts) = false :=
  TokenTree.isBodyOf_of_isPunct ht

theorem dissolve_of_isPunct {c : Char} (h : t.isPunct c = true) : t.dissolve = [t] := by
  obtain ⟨mark, rfl, -⟩ := exists_punct_of_isPunct h
  rfl

/-- The body of an attribute called `name` is one once its groups are dissolved, and still follows
the pound sign. -/
theorem removeAttribute_dissolve_pair (ht : t.isPunct '#' = true) (hu : u.isBodyOf name = true) :
    removeAttribute name (dissolve (t :: u :: ts)) = removeAttribute name (dissolve ts) := by
  obtain ⟨body, hbody, hname⟩ : ∃ body, u.dissolve = [body] ∧ body.isBodyOf name = true := by
    match u, hu with
    | .group .bracket span (.ident word :: inner), hu =>
      exact ⟨.group .bracket span (.ident word :: dissolve inner), rfl, hu⟩
  rw [dissolve_cons, dissolve_cons, dissolve_of_isPunct ht, hbody]
  exact removeAttribute_pair ht hname

end TokenStream

/-! ## Where nothing is hidden -/

section
variable {name : String}

mutual

theorem TokenTree.dissolve_removeAttribute :
    ∀ t : TokenTree, t.hidesAttribute name = false →
      (t.removeAttribute name).dissolve = TokenStream.removeAttribute name t.dissolve
  | .ident _, _ | .punct _, _ | .literal _, _ => rfl
  | .group .invisible _ inner, h => TokenStream.dissolve_removeAttribute inner h
  | .group .parenthesis _ inner, h | .group .bracket _ inner, h | .group .brace _ inner, h => by
    simp only [TokenTree.removeAttribute, TokenTree.dissolve, TokenStream.removeAttribute,
      TokenStream.dissolve_removeAttribute inner h]

/-- **Where nothing is hidden** removing attributes and dissolving groups commute. -/
theorem TokenStream.dissolve_removeAttribute :
    ∀ ts : TokenStream, TokenStream.hidesAttribute name ts = false →
      TokenStream.dissolve (TokenStream.removeAttribute name ts) =
        TokenStream.removeAttribute name (TokenStream.dissolve ts)
  | [], _ => rfl
  | [t], h => by
    simp only [TokenStream.removeAttribute, TokenStream.dissolve_cons, TokenStream.dissolve_nil,
      List.append_nil]
    exact TokenTree.dissolve_removeAttribute t h
  | t :: u :: ts, h => by
    rw [TokenStream.hidesAttribute] at h
    rw [TokenStream.removeAttribute]
    split
    · rename_i hpair
      rw [if_pos hpair] at h
      rw [Bool.and_eq_true] at hpair
      rw [TokenStream.dissolve_removeAttribute ts h,
        TokenStream.removeAttribute_dissolve_pair hpair.1 hpair.2]
    · rename_i hpair
      rw [if_neg hpair, Bool.or_eq_false_iff, Bool.or_eq_false_iff] at h
      obtain ⟨⟨hmeet, ht⟩, hts⟩ := h
      rw [TokenStream.dissolve_cons, TokenTree.dissolve_removeAttribute t ht,
        TokenStream.dissolve_removeAttribute (u :: ts) hts, TokenStream.dissolve_cons t,
        TokenStream.removeAttribute_append t.dissolve hmeet]

end

end

/-! ## Where something is hidden -/

mutual

/-- How many tokens there are, a group with all that is inside of it. -/
def TokenTree.count : TokenTree → Nat
  | .group _ _ inner => TokenStream.count inner + 1
  | _ => 1
termination_by structural t => t

/-- How many tokens a stream has, at any depth. -/
def TokenStream.count : List TokenTree → Nat
  | [] => 0
  | t :: ts => t.count + TokenStream.count ts
termination_by structural ts => ts

end

namespace TokenStream

variable {name : String} {ts us : TokenStream}

theorem count_append (ts us : TokenStream) : count (ts ++ us) = count ts + count us := by
  induction ts with
  | nil => simp [count]
  | cons t ts ih =>
    simp only [List.cons_append, count, ih]
    omega

/-- Less is left of two streams together if an attribute is put together by the two. -/
theorem count_removeAttribute_append (name : String) (ts us : TokenStream) :
    count (removeAttribute name (ts ++ us)) +
        (endsInPound ts && beginsWithBody name us).toNat ≤
      count (removeAttribute name ts) + count (removeAttribute name us) := by
  cases hmeet : endsInPound ts && beginsWithBody name us with
  | false =>
    rw [removeAttribute_append ts hmeet, count_append]
    simp
  | true =>
    rw [Bool.and_eq_true] at hmeet
    obtain ⟨front, pound, rfl, hpound⟩ := eq_append_of_endsInPound hmeet.1
    obtain ⟨body, rest, rfl⟩ : ∃ body rest, us = body :: rest := by
      cases us with
      | nil => cases hmeet.2
      | cons body rest => exact ⟨body, rest, rfl⟩
    have hbody : body.isBodyOf name = true := hmeet.2
    have hfront : ∀ ts, (endsInPound front && beginsWithBody name (pound :: ts)) = false :=
      fun ts => by rw [not_beginsWithBody_of_isPunct hpound, Bool.and_false]
    rw [List.append_assoc, List.singleton_append, removeAttribute_append front (hfront _),
      removeAttribute_append front (hfront _), removeAttribute_pair hpound hbody,
      removeAttribute_cons (TokenTree.isPunct_of_isBodyOf hbody _), count_append, count_append]
    obtain ⟨mark, rfl, -⟩ := exists_punct_of_isPunct hpound
    have hkept : count (removeAttribute name [.punct mark]) = 1 := rfl
    simp only [count, hkept, Bool.toNat_true]
    omega

end TokenStream

theorem toNat_or_or (a b c : Bool) : (a || b || c).toNat ≤ a.toNat + b.toNat + c.toNat := by
  cases a <;> cases b <;> cases c <;> decide

mutual

theorem TokenTree.count_removeAttribute_dissolve (name : String) :
    ∀ t : TokenTree,
      TokenStream.count (TokenStream.removeAttribute name t.dissolve) +
          (t.hidesAttribute name).toNat ≤
        TokenStream.count (t.removeAttribute name).dissolve
  | .ident _ | .punct _ | .literal _ => Nat.le_refl _
  | .group .invisible _ inner => TokenStream.count_removeAttribute_dissolve name inner
  | .group .parenthesis _ inner | .group .bracket _ inner | .group .brace _ inner => by
    have hinner := TokenStream.count_removeAttribute_dissolve name inner
    simp only [TokenTree.dissolve, TokenTree.removeAttribute, TokenTree.hidesAttribute,
      TokenStream.removeAttribute, TokenStream.count, TokenTree.count]
    omega

/-- **Where something is hidden** more is left of the tokens as they are. -/
theorem TokenStream.count_removeAttribute_dissolve (name : String) :
    ∀ ts : TokenStream,
      TokenStream.count (TokenStream.removeAttribute name (TokenStream.dissolve ts)) +
          (TokenStream.hidesAttribute name ts).toNat ≤
        TokenStream.count (TokenStream.dissolve (TokenStream.removeAttribute name ts))
  | [] => Nat.le_refl _
  | [t] => by
    simp only [TokenStream.removeAttribute, TokenStream.dissolve_cons, TokenStream.dissolve_nil,
      List.append_nil]
    exact TokenTree.count_removeAttribute_dissolve name t
  | t :: u :: ts => by
    rw [TokenStream.removeAttribute, TokenStream.hidesAttribute]
    split
    · rename_i hpair
      rw [Bool.and_eq_true] at hpair
      rw [TokenStream.removeAttribute_dissolve_pair hpair.1 hpair.2]
      exact TokenStream.count_removeAttribute_dissolve name ts
    · have ht := TokenTree.count_removeAttribute_dissolve name t
      have hts := TokenStream.count_removeAttribute_dissolve name (u :: ts)
      have hmeet := TokenStream.count_removeAttribute_append name t.dissolve
        (TokenStream.dissolve (u :: ts))
      rw [TokenStream.dissolve_cons t (u :: ts), TokenStream.dissolve_cons (t.removeAttribute name),
        TokenStream.count_append]
      have hor := toNat_or_or (TokenStream.endsInPound t.dissolve &&
        TokenStream.beginsWithBody name (TokenStream.dissolve (u :: ts)))
        (t.hidesAttribute name) (TokenStream.hidesAttribute name (u :: ts))
      omega

end

/-- **What is removed does not depend on invisible groups**, exactly if no attribute is hidden. -/
theorem TokenStream.dissolve_removeAttribute_iff {name : String} {ts : TokenStream} :
    dissolve (removeAttribute name ts) = removeAttribute name (dissolve ts) ↔
      hidesAttribute name ts = false := by
  refine ⟨fun heq => ?_, dissolve_removeAttribute ts⟩
  have hcount := count_removeAttribute_dissolve name ts
  rw [heq] at hcount
  cases h : hidesAttribute name ts with
  | false => rfl
  | true =>
    rw [h, Bool.toNat_true] at hcount
    omega

/-! ## The reader and the removal -/

/-- **What is removed is what is read**, exactly if no attribute is hidden. A struct that hides
none, and has pound signs in front of its entries only, is emitted without any marker. -/
theorem Host.removeAttribute_complete {config : Config} {item : TokenStream} {host : Host}
    (hread : read config item = .ok host) :
    (TokenStream.dissolve (TokenStream.removeAttribute config.attributeName item) =
        TokenStream.removeAttribute config.attributeName (TokenStream.dissolve item) ↔
      TokenStream.hidesAttribute config.attributeName item = false) ∧
    (TokenStream.hidesAttribute config.attributeName item = false →
      config.attributeName ≠ "derive" →
      (Declaration.read (TokenStream.dissolve item)).TidyItem →
      (∀ f ∈ host.fields, f.ty ≠ some []) →
      read config (TokenStream.removeAttribute config.attributeName item) = .ok host.unmarked) := by
  refine ⟨TokenStream.dissolve_removeAttribute_iff, fun hhides hname htidy hty => ?_⟩
  obtain ⟨keyword, rest, hcontent⟩ := exists_ident_of_ofDeclaration hread
  rw [read, TokenStream.dissolve_removeAttribute item hhides,
    Declaration.read_removeAttribute_of_ident htidy.toTidyFront hcontent]
  exact ofDeclaration_removeAttribute hname htidy hread hty

/-! ### A captured marker -/

namespace Captured

open Code

/-- `[animatable(ignore)]`, as it is written out or as it comes captured. -/
def marker : TokenStream :=
  [word "animatable", parens [word "ignore"]]

/-- `#[marker] a: u8` -/
def marked (marker : TokenStream) : TokenStream :=
  [mark '#', brackets marker, word "a", mark ':', word "u8"]

/-- `b: ty` -/
def plain (ty : TokenTree) : TokenStream :=
  [word "b", mark ':', ty]

/-- `#[marker] a: u8, b: ty` -/
def contents (marker : TokenStream) (ty : TokenTree) : TokenStream :=
  marked marker ++ mark ',' :: plain ty

/-- `#[derive(…)] struct Captured { #[marker] a: u8, b: $ty }`, where `$ty` is captured. -/
def item (marker : TokenStream) : TokenStream :=
  Sprite.derive.tokens ++ [word "struct", word "Captured",
    braces (contents marker (.group .invisible .callSite [word "f64"]))]

/-- What the item declares, with the markers of the first field. -/
def host (markers : List Ident) : Host where
  kind := .struct
  name := ⟨"Captured", .callSite⟩
  visibility := []
  isGeneric := false
  traits := ["Debug", "Shape"]
  fields := [
    ⟨some ⟨"a", .callSite⟩, some [word "u8"], markers⟩,
    ⟨some ⟨"b", .callSite⟩, some [word "f64"], []⟩]

end Captured

open Captured in
/-- A captured marker is read, but not removed: the field is still marked in what is emitted. -/
theorem dissolve_removeAttribute_captured :
    Host.read .standard (item [.group .invisible .callSite marker]) =
        .ok (host [⟨"ignore", .callSite⟩]) ∧
      TokenStream.dissolve (TokenStream.removeAttribute "animatable"
          (item [.group .invisible .callSite marker])) ≠
        TokenStream.removeAttribute "animatable"
          (TokenStream.dissolve (item [.group .invisible .callSite marker])) ∧
      Host.read .standard (TokenStream.removeAttribute "animatable"
          (item [.group .invisible .callSite marker])) =
        .ok (host [⟨"ignore", .callSite⟩]) := by
  refine ⟨rfl, fun h => ?_, rfl⟩
  have hcount := congrArg TokenStream.count h
  revert hcount
  decide

open Captured in
/-- A captured type hides nothing, and the marker written out in front of it is gone. -/
theorem removeAttribute_complete_captured :
    TokenStream.hidesAttribute "animatable" (item marker) = false ∧
      Host.read .standard (item marker) = .ok (host [⟨"ignore", .callSite⟩]) ∧
      Host.read .standard (TokenStream.removeAttribute "animatable" (item marker)) =
        .ok (host []) := by
  have hhides : TokenStream.hidesAttribute "animatable" (item marker) = false := by decide
  have hread : Host.read .standard (item marker) = .ok (host [⟨"ignore", .callSite⟩]) := rfl
  refine ⟨hhides, hread, (Host.removeAttribute_complete hread).2 hhides (by decide) ?tidy ?types⟩
  case tidy =>
    have hentries : TokenStream.entries (contents marker (Code.word "f64")) =
        [marked marker, plain (Code.word "f64")] := rfl
    have htidy : ∀ entry ∈ TokenStream.entries (contents marker (Code.word "f64")),
        (Declaration.read entry).Tidy := by
      rw [hentries, List.forall_mem_cons, List.forall_mem_singleton]
      exact ⟨⟨⟨by decide, by decide⟩, by decide⟩, ⟨⟨by decide, by decide⟩, by decide⟩⟩
    refine ⟨⟨by decide, by decide⟩, fun keyword word rest style contents hcontent _ hbody => ?_⟩
    cases hcontent
    cases hbody
    exact htidy
  case types => simp [host]

end Tween
