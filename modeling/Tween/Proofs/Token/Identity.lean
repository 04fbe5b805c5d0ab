import Tween.Proofs.Token.Legible
import Tween.Token.Code

/-!
# The compact text identifies a type

Types are compared by their compact texts, which have blanks only between two words and after a
comma. Nothing is lost by that: of streams without literals, raw identifiers and invisible groups
the text tells every token and every group, in their order, and leaves open only where they stand
and how punctuation is spaced.

* `TokenStream.compactDetermines`: the text of a stream tells the stream, and where it ends.
* `TokenStream.compact_eq_compact_iff`: two types have the same text exactly if they are made of the
  same tokens.
-/

namespace Tween

variable {t u : TokenTree} {ts us : TokenStream} {x y : List Char} {afterWord : Bool}

/-! ## What the text leaves out -/

theorem TokenTree.isWord_outline (counts : Bool → Spacing → Spacing) (isLast : Bool)
    (t : TokenTree) : (t.outline counts isLast).isWord = t.isWord := by
  cases t <;> rfl

mutual

theorem TokenTree.compactChars_outline (counts : Bool → Spacing → Spacing) (isLast : Bool) :
    ∀ (t : TokenTree) (afterWord : Bool),
      (t.outline counts isLast).compactChars afterWord = t.compactChars afterWord
  | .ident _, _ | .punct _, _ | .literal _, _ => rfl
  | .group _ _ inner, _ => by
    simp only [TokenTree.outline, TokenTree.compactChars,
      TokenStream.compactChars_outline counts inner]

/-- The compact text shows neither spans nor spacing. -/
theorem TokenStream.compactChars_outline (counts : Bool → Spacing → Spacing) :
    ∀ (ts : TokenStream) (afterWord : Bool),
      TokenStream.compactChars afterWord (TokenStream.outline counts ts) =
        TokenStream.compactChars afterWord ts
  | [], _ => rfl
  | t :: ts, afterWord => by
    simp only [TokenStream.outline, TokenStream.compactChars, TokenTree.isWord_outline,
      TokenTree.compactChars_outline counts ts.isEmpty t afterWord,
      TokenStream.compactChars_outline counts ts]

end

/-! ## What the text tells of a token -/

namespace Delimiter

variable {d e : Delimiter}

theorem first_brackets (hd : d ≠ .invisible) (rest : List Char) :
    Role.first (d.brackets.1 ++ rest) = some .opening := by
  cases d with
  | invisible => exact absurd rfl hd
  | parenthesis | bracket | brace => exact congrArg some (Role.of_opening _ (by simp))

theorem closes_brackets (hd : d ≠ .invisible) (rest : List Char) :
    Closes (d.brackets.2 ++ rest) := by
  intro role hrole
  cases d with
  | invisible => exact absurd rfl hd
  | parenthesis | bracket | brace =>
    cases hrole
    exact Role.of_closing _ (by simp)

/-- The opening bracket tells the delimiter. -/
theorem eq_of_brackets (hd : d ≠ .invisible) (he : e ≠ .invisible)
    (h : d.brackets.1 ++ x = e.brackets.1 ++ y) : d = e ∧ x = y := by
  cases d <;> cases e <;> simp_all [brackets]

end Delimiter

namespace TokenTree

/-- The role of the first character. A word after a word has a blank in front. -/
def compactRole (afterWord : Bool) (t : TokenTree) : Role :=
  if afterWord && t.isWord then .blank else t.role

theorem compactChars_punct (afterWord : Bool) (mark : Punct) :
    (punct mark).compactChars afterWord =
      mark.char :: if mark.char = ',' then [' '] else [] := by
  rw [compactChars]
  split
  · rename_i hcomma
    rw [hcomma]
  · rfl

theorem first_compactChars (ht : t.IsLegible IsPlainWord) (afterWord : Bool) :
    Role.first (t.compactChars afterWord) = some (t.compactRole afterWord) := by
  cases t with
  | ident word =>
    cases afterWord with
    | false => exact IsPlainWord.first ht
    | true => exact congrArg some Role.of_blank
  | punct mark =>
    rw [compactChars_punct, Role.first_cons, Role.of_eq_mark ht]
    cases afterWord <;> rfl
  | literal => exact ht.elim
  | group delimiter span inner =>
    rw [compactChars, List.append_assoc, Delimiter.first_brackets ht]
    cases afterWord <;> rfl

theorem role_eq_of_compactRole (h : t.compactRole afterWord = u.compactRole afterWord) :
    t.role = u.role := by
  cases afterWord <;> cases t <;> cases u <;> first | rfl | cases h

end TokenTree

namespace TokenStream

/-- All tokens are legible, at any depth, and no identifier is raw. -/
abbrev Plain (ts : TokenStream) : Prop :=
  Everywhere (TokenTree.IsLegible IsPlainWord) ts

/-- Whatever closes it, the text of the stream tells the stream, and where it ends. -/
def CompactDetermines (ts : TokenStream) : Prop :=
  ∀ ⦃us : TokenStream⦄ ⦃afterWord : Bool⦄ ⦃x y : List Char⦄, Plain ts → Plain us → Closes x →
    Closes y → compactChars afterWord ts ++ x = compactChars afterWord us ++ y →
      outline Spacing.free ts = outline Spacing.free us ∧ x = y

/-- What has a token in front does not close. -/
theorem not_closes_compactChars (hts : Plain (t :: ts)) (afterWord : Bool) (x : List Char) :
    ¬ Closes (compactChars afterWord (t :: ts) ++ x) := by
  intro hcloses
  have hrole := hcloses (t.compactRole afterWord) (by
    rw [compactChars, List.append_assoc]
    exact Role.first_append (TokenTree.first_compactChars hts.1.self afterWord) _)
  cases afterWord <;> cases t <;> cases hrole

/-- After a word, no character of a word comes next. -/
theorem first_compactChars_ne_word (hts : Plain ts) (hx : Closes x) (role : Role)
    (h : Role.first (compactChars true ts ++ x) = some role) : role ≠ .word := by
  cases ts with
  | nil =>
    rw [hx role h]
    exact Role.noConfusion
  | cons t ts =>
    rw [compactChars, List.append_assoc,
      Role.first_append (TokenTree.first_compactChars hts.1.self true)] at h
    cases h
    cases t <;> exact Role.noConfusion

end TokenStream

open TokenStream in
/-- One token, if what follows a word does not go on with it. -/
theorem TokenTree.outline_eq_of_compactChars (ht : t.Everywhere (IsLegible IsPlainWord))
    (hu : u.Everywhere (IsLegible IsPlainWord))
    (hinner : ∀ delimiter span inner, t = .group delimiter span inner → CompactDetermines inner)
    (hx : t.isWord = true → ∀ role, Role.first x = some role → role ≠ .word)
    (hy : u.isWord = true → ∀ role, Role.first y = some role → role ≠ .word)
    (h : t.compactChars afterWord ++ x = u.compactChars afterWord ++ y) (isLast isLast' : Bool) :
    t.outline Spacing.free isLast = u.outline Spacing.free isLast' ∧ x = y := by
  have hrole : some (t.compactRole afterWord) = some (u.compactRole afterWord) := by
    rw [← Role.first_append (first_compactChars ht.self afterWord) x, h,
      Role.first_append (first_compactChars hu.self afterWord) y]
  obtain ⟨v, w, rfl, rfl⟩ | ⟨m, n, rfl, rfl⟩ | ⟨d, _, ts, e, _, us, rfl, rfl⟩ :=
    ht.self.kinds hu.self (role_eq_of_compactRole (Option.some.inj hrole))
  · rw [compactChars, compactChars, List.append_assoc, List.append_assoc] at h
    obtain ⟨hword, rfl⟩ := append_inj_of_roles (IsPlainWord.roles ht) (IsPlainWord.roles hu)
      (hx rfl) (hy rfl) (List.append_cancel_left h)
    rw [outline, outline, String.toList_inj.1 hword]
    exact ⟨rfl, rfl⟩
  · rw [compactChars_punct, compactChars_punct] at h
    obtain ⟨hchar, hrest⟩ := List.cons.inj h
    rw [hchar] at hrest
    rw [outline, outline, hchar]
    exact ⟨rfl, List.append_cancel_left hrest⟩
  · simp only [compactChars, List.append_assoc] at h
    obtain ⟨rfl, h⟩ := Delimiter.eq_of_brackets ht.1 hu.1 h
    obtain ⟨hts, hrest⟩ := hinner _ _ _ rfl ht.2 hu.2 (Delimiter.closes_brackets ht.1 x)
      (Delimiter.closes_brackets ht.1 y) h
    rw [outline, outline, hts]
    exact ⟨rfl, List.append_cancel_left hrest⟩

namespace TokenStream

/-- A stream is told by its text if the contents of its groups are. -/
theorem CompactDetermines.of_groups
    (h : ∀ delimiter span inner, .group delimiter span inner ∈ ts → CompactDetermines inner) :
    CompactDetermines ts := by
  induction ts with
  | nil =>
    intro us afterWord x y _ hus hx _ heq
    cases us with
    | nil => exact ⟨rfl, heq⟩
    | cons u us =>
      have hx' : x = compactChars afterWord (u :: us) ++ y := heq
      exact absurd (hx' ▸ hx) (not_closes_compactChars hus afterWord y)
  | cons t ts ih =>
    intro us afterWord x y hts hus hx hy heq
    cases us with
    | nil =>
      have hy' : compactChars afterWord (t :: ts) ++ x = y := heq
      exact absurd (hy' ▸ hy) (not_closes_compactChars hts afterWord x)
    | cons u us =>
      rw [compactChars, compactChars, List.append_assoc, List.append_assoc] at heq
      obtain ⟨htoken, hrest⟩ := TokenTree.outline_eq_of_compactChars hts.1 hus.1
        (by rintro delimiter span inner rfl; exact h _ _ _ List.mem_cons_self)
        (fun hword => hword ▸ first_compactChars_ne_word hts.2 hx)
        (fun hword => hword ▸ first_compactChars_ne_word hus.2 hy) heq ts.isEmpty us.isEmpty
      have hword : t.isWord = u.isWord := by
        rw [← t.isWord_outline Spacing.free ts.isEmpty, htoken, TokenTree.isWord_outline]
      rw [hword] at hrest
      obtain ⟨hstream, hxy⟩ := ih (fun _ _ _ hmem => h _ _ _ (List.mem_cons_of_mem _ hmem))
        hts.2 hus.2 hx hy hrest
      rw [outline, outline, htoken, hstream]
      exact ⟨rfl, hxy⟩

theorem compactDetermines (ts : TokenStream) : CompactDetermines ts := by
  induction ts using induction_on_groups with
  | h ts ih => exact CompactDetermines.of_groups ih

/-- **The compact text identifies a type.** -/
theorem compact_eq_compact_iff {a b : TokenStream} (ha : Plain a) (hb : Plain b) :
    compact a = compact b ↔ outline Spacing.free a = outline Spacing.free b := by
  rw [← String.toList_inj, toList_compact, toList_compact]
  constructor
  · intro h
    exact (compactDetermines a ha hb closes_nil closes_nil (congrArg (· ++ []) h)).1
  · intro h
    rw [← compactChars_outline Spacing.free a, h, compactChars_outline]

open Code

/-- `Fn(u8, u8) -> Vec<f64>`, the arrow spaced and all of it placed as given. -/
def signature (spacing : Spacing) (span : Span) : TokenStream :=
  anchoredAt span ([word "Fn", parens [word "u8", mark ',', word "u8"],
    .punct ⟨'-', spacing, .callSite⟩, mark '>', word "Vec", mark '<', word "f64", mark '>'])

/-- `Fn(u8), u8 -> Vec<f64>`, which differs in what the parentheses enclose. -/
def regrouped : TokenStream :=
  [word "Fn", parens [word "u8"], mark ',', word "u8"] ++ operator '-' '>' ++
    [word "Vec", mark '<', word "f64", mark '>']

/-- Another place and another spacing make no other type, another grouping does. -/
theorem compact_signature :
    Plain (signature .joint .callSite) ∧ Plain (signature .alone (.token "item:1")) ∧
      Plain regrouped ∧
      compact (signature .joint .callSite) = compact (signature .alone (.token "item:1")) ∧
      compact (signature .joint .callSite) ≠ compact regrouped := by
  have hplain : Plain (signature .joint .callSite) := by decide
  have hplaced : Plain (signature .alone (.token "item:1")) := by decide
  have hregrouped : Plain regrouped := by decide
  refine ⟨hplain, hplaced, hregrouped, (compact_eq_compact_iff hplain hplaced).2 rfl, fun h => ?_⟩
  have houtline := (compact_eq_compact_iff hplain hregrouped).1 h
  cases houtline

end TokenStream

end Tween
