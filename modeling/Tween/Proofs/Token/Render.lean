import Tween.Proofs.Token.Legible
import Tween.Token.Code
import Tween.Token.Render

/-!
# The printed form, read back and cut out

Between two tokens a blank is printed, or nothing after a joint mark, so the printed form shows the
spacing of every mark but the last of its level. Apart from that and from the spans it shows a
stream of legible tokens as it is.

How a token is printed does not depend on its neighbours, only what stands between two tokens does.
So the printed form of a run of tokens occurs in that of the whole stream.

* `TokenStream.chars_eq_chars_iff`: which streams print the same.
* `TokenStream.infix_chars`: a run prints as a part of the stream, at any depth.
* `TokenStream.chars_exchange`: one token in place of another is seen in print if the two are.
-/

namespace Tween

variable {t u : TokenTree} {ts us : TokenStream} {x y : List Char}

/-! ## A stream token by token -/

/-- What is printed after `t` if these tokens follow. -/
def TokenStream.sequel (t : TokenTree) : TokenStream → List Char
  | [] => []
  | u :: us => t.gap ++ TokenStream.chars (u :: us)

theorem TokenStream.chars_cons (t : TokenTree) (ts : TokenStream) :
    chars (t :: ts) = t.chars ++ sequel t ts := by
  cases ts with
  | nil => exact (List.append_nil _).symm
  | cons u us => rw [chars, sequel, List.append_assoc]

theorem TokenTree.gap_cases (t : TokenTree) : t.gap = [] ∨ t.gap = [' '] := by
  unfold gap
  split
  · exact .inl rfl
  · exact .inr rfl

/-! ## What the printed form leaves out -/

theorem TokenTree.gap_outline (t : TokenTree) : (t.outline Spacing.between false).gap = t.gap := by
  cases t with
  | punct mark =>
    obtain ⟨c, spacing, span⟩ := mark
    cases spacing <;> rfl
  | ident | literal | group => rfl

theorem Delimiter.closing_outline (counts : Bool → Spacing → Spacing) (contents : TokenStream)
    (d : Delimiter) : d.closing (TokenStream.outline counts contents) = d.closing contents := by
  cases d <;> simp only [closing, TokenStream.isEmpty_outline]

mutual

theorem TokenTree.chars_outline (isLast : Bool) :
    ∀ t : TokenTree, (t.outline Spacing.between isLast).chars = t.chars
  | .ident _ | .punct _ | .literal _ => rfl
  | .group _ _ inner => by
    simp only [TokenTree.outline, TokenTree.chars, TokenStream.chars_outline inner,
      Delimiter.closing_outline]

/-- The printed form shows neither spans nor the spacing of a last mark. -/
theorem TokenStream.chars_outline :
    ∀ ts : TokenStream, TokenStream.chars (TokenStream.outline Spacing.between ts) =
      TokenStream.chars ts
  | [] => rfl
  | [t] => TokenTree.chars_outline true t
  | t :: u :: us => by
    have hrest := TokenStream.chars_outline (u :: us)
    rw [TokenStream.outline] at hrest
    rw [TokenStream.outline_cons_cons, TokenStream.outline, TokenStream.chars, TokenStream.chars,
      hrest, TokenTree.chars_outline, TokenTree.gap_outline]

end

section
variable (counts : Bool → Spacing → Spacing) (span : Span)

mutual

theorem TokenTree.outline_anchoredAt (isLast : Bool) :
    ∀ t : TokenTree, (t.anchoredAt span).outline counts isLast = t.outline counts isLast
  | .ident _ | .punct _ | .literal _ => rfl
  | .group _ _ inner => by
    simp only [TokenTree.anchoredAt, TokenTree.outline, TokenStream.outline_anchoredAt inner]

/-- An outline does not tell where the tokens stand. -/
theorem TokenStream.outline_anchoredAt :
    ∀ ts : TokenStream, TokenStream.outline counts (TokenStream.anchoredAt span ts) =
      TokenStream.outline counts ts
  | [] => rfl
  | t :: ts => by
    have hempty : (TokenStream.anchoredAt span ts).isEmpty = ts.isEmpty := by cases ts <;> rfl
    simp only [TokenStream.anchoredAt, TokenStream.outline, TokenTree.outline_anchoredAt,
      TokenStream.outline_anchoredAt ts, hempty]

end

end

/-- Nor does the printed form. -/
theorem TokenStream.chars_anchoredAt (span : Span) (ts : TokenStream) :
    chars (anchoredAt span ts) = chars ts := by
  rw [← chars_outline, outline_anchoredAt, chars_outline]

/-! ## What the printed form tells of a token -/

/-- Nothing follows, or a closing bracket, which the brace has a blank in front of. -/
def Ends (rest : List Char) : Prop :=
  Closes rest ∨ ∃ bracket, rest = ' ' :: bracket ∧ Role.first bracket = some .closing

namespace Delimiter

variable {d e : Delimiter}

theorem ends_closing (hd : d ≠ .invisible) (contents : TokenStream) (rest : List Char) :
    Ends (d.closing contents ++ rest) := by
  have hcloses : ∀ c ∈ [')', ']', '}'], Closes (c :: rest) := by
    rintro c hc role ⟨⟩
    exact Role.of_closing c hc
  cases d with
  | invisible => exact absurd rfl hd
  | parenthesis | bracket => exact .inl (hcloses _ (by simp))
  | brace =>
    rw [closing]
    split
    · exact .inl (hcloses _ (by simp))
    · exact .inr ⟨_, rfl, congrArg some (Role.of_closing _ (by simp))⟩

/-- The opening bracket tells the delimiter. -/
theorem eq_of_opening (hd : d ≠ .invisible) (he : e ≠ .invisible)
    (h : d.opening ++ x = e.opening ++ y) : d = e ∧ x = y := by
  cases d <;> cases e <;> simp_all [opening]

end Delimiter

namespace TokenTree

theorem first_chars (ht : t.IsLegible IsWord) : Role.first t.chars = some t.role := by
  cases t with
  | ident word => exact IsWord.first ht
  | punct mark => exact congrArg some (Role.of_eq_mark ht)
  | literal => exact ht.elim
  | group delimiter span inner =>
    cases delimiter with
    | invisible => exact absurd rfl ht
    | parenthesis | bracket | brace => exact congrArg some (Role.of_opening _ (by simp))

theorem role_ne_closing (t : TokenTree) : t.role ≠ .closing := by
  cases t <;> exact Role.noConfusion

theorem role_ne_blank (t : TokenTree) : t.role ≠ .blank := by
  cases t <;> exact Role.noConfusion

end TokenTree

namespace TokenStream

/-- All tokens are legible, at any depth, and identifiers are plain or raw. -/
abbrev Legible (ts : TokenStream) : Prop :=
  Everywhere (TokenTree.IsLegible IsWord) ts

/-- However it ends, the printed form of the stream tells the stream, and where it ends. -/
def PrintDetermines (ts : TokenStream) : Prop :=
  ∀ ⦃us : TokenStream⦄ ⦃x y : List Char⦄, Legible ts → Legible us → Ends x → Ends y →
    chars ts ++ x = chars us ++ y →
      outline Spacing.between ts = outline Spacing.between us ∧ x = y

theorem first_chars_cons (hts : Legible (t :: ts)) (x : List Char) :
    Role.first (chars (t :: ts) ++ x) = some t.role := by
  rw [chars_cons, List.append_assoc]
  exact Role.first_append (TokenTree.first_chars hts.1.self) _

/-- Where a token comes next, a stream does not end. -/
theorem not_ends (h : Role.first x = some u.role) : ¬ Ends x := by
  rintro (hcloses | ⟨bracket, rfl, -⟩)
  · exact u.role_ne_closing (hcloses _ h)
  · rw [Role.first_cons, Role.of_blank, Option.some.injEq] at h
    exact u.role_ne_blank h.symm

/-- Nor does it where the token is set off by a blank. -/
theorem not_ends_blank (h : Role.first x = some u.role) : ¬ Ends (' ' :: x) := by
  rintro (hcloses | ⟨bracket, hrest, hbracket⟩)
  · have hblank := hcloses .blank (congrArg some Role.of_blank)
    cases hblank
  · obtain rfl := (List.cons.inj hrest).2
    rw [h, Option.some.injEq] at hbracket
    exact u.role_ne_closing hbracket

theorem not_ends_gap (hus : Legible (u :: us)) (t : TokenTree) (y : List Char) :
    ¬ Ends (t.gap ++ (chars (u :: us) ++ y)) := by
  have hfirst := first_chars_cons hus y
  rcases t.gap_cases with hgap | hgap <;> rw [hgap]
  · exact not_ends hfirst
  · exact not_ends_blank hfirst

/-- The gap in front of a token tells itself. -/
theorem gap_append_inj {v w : TokenTree} (hx : Role.first x = some v.role)
    (hy : Role.first y = some w.role) (h : t.gap ++ x = u.gap ++ y) : t.gap = u.gap ∧ x = y := by
  -- a blank on one side only would be the first character of a token on the other
  have hblank : ∀ {v : TokenTree} {z : List Char}, Role.first (' ' :: z) ≠ some v.role := by
    intro v z hv
    rw [Role.first_cons, Role.of_blank, Option.some.injEq] at hv
    exact v.role_ne_blank hv.symm
  rcases t.gap_cases with ht | ht <;> rcases u.gap_cases with hu | hu <;> rw [ht, hu] at h ⊢
  · exact ⟨rfl, h⟩
  · have hx' : x = ' ' :: y := h
    exact absurd (hx' ▸ hx) hblank
  · have hy' : ' ' :: x = y := h
    exact absurd (hy' ▸ hy) hblank
  · exact ⟨rfl, List.append_cancel_left h⟩

/-- After an identifier comes a blank, or the stream ends. -/
theorem first_sequel_ident {word : Ident} (hx : Ends x) (role : Role)
    (h : Role.first (sequel (.ident word) ts ++ x) = some role) :
    ¬ (role = .word ∨ role = .mark) := by
  cases ts with
  | cons t ts =>
    rw [← Option.some.inj ((congrArg some Role.of_blank).symm.trans h)]
    decide
  | nil =>
    rcases hx with hcloses | ⟨bracket, rfl, -⟩
    · rw [hcloses role h]
      decide
    · rw [← Option.some.inj ((congrArg some Role.of_blank).symm.trans h)]
      decide

end TokenStream

open TokenStream in
/-- One token, if what follows a word does not go on with it. The spacing of a mark is left open. -/
theorem TokenTree.outline_eq_of_chars (ht : t.Everywhere (IsLegible IsWord))
    (hu : u.Everywhere (IsLegible IsWord))
    (hinner : ∀ delimiter span inner, t = .group delimiter span inner → PrintDetermines inner)
    (hx : ∀ word, t = .ident word → ∀ role, Role.first x = some role →
      ¬ (role = .word ∨ role = .mark))
    (hy : ∀ word, u = .ident word → ∀ role, Role.first y = some role →
      ¬ (role = .word ∨ role = .mark))
    (h : t.chars ++ x = u.chars ++ y) :
    t.outline Spacing.between true = u.outline Spacing.between true ∧ x = y := by
  have hrole : some t.role = some u.role := by
    rw [← Role.first_append (first_chars ht.self) x, h, Role.first_append (first_chars hu.self) y]
  obtain ⟨v, w, rfl, rfl⟩ | ⟨m, n, rfl, rfl⟩ | ⟨d, _, ts, e, _, us, rfl, rfl⟩ :=
    ht.self.kinds hu.self (Option.some.inj hrole)
  · obtain ⟨hword, rfl⟩ := append_inj_of_roles (IsWord.roles ht) (IsWord.roles hu)
      (hx v rfl) (hy w rfl) h
    rw [outline, outline, String.toList_inj.1 hword]
    exact ⟨rfl, rfl⟩
  · obtain ⟨hchar, rfl⟩ := List.cons.inj h
    rw [outline, outline, hchar]
    exact ⟨rfl, rfl⟩
  · simp only [chars, List.append_assoc] at h
    obtain ⟨rfl, h⟩ := Delimiter.eq_of_opening ht.1 hu.1 h
    obtain ⟨hts, hrest⟩ := hinner _ _ _ rfl ht.2 hu.2 (Delimiter.ends_closing ht.1 ts x)
      (Delimiter.ends_closing hu.1 us y) h
    -- the closing bracket is padded on both sides or on none
    rw [← Delimiter.closing_outline Spacing.between ts, hts, Delimiter.closing_outline] at hrest
    rw [outline, outline, hts]
    exact ⟨rfl, List.append_cancel_left hrest⟩

/-- In front of another token the gap shows the spacing, too. -/
theorem TokenTree.outline_false_eq
    (h : t.outline Spacing.between true = u.outline Spacing.between true) (hgap : t.gap = u.gap) :
    t.outline Spacing.between false = u.outline Spacing.between false := by
  cases t with
  | punct m =>
    cases u with
    | punct n =>
      obtain ⟨c, spacing, _⟩ := m
      obtain ⟨d, spacing', _⟩ := n
      cases h
      cases spacing <;> cases spacing' <;> first | rfl | cases hgap
    | ident | literal | group => cases h
  | ident | literal | group =>
    cases u with
    | punct n => cases h
    | ident | literal | group => exact h

namespace TokenStream

/-- A stream is told by its printed form if the contents of its groups are. -/
theorem PrintDetermines.of_groups
    (h : ∀ delimiter span inner, .group delimiter span inner ∈ ts → PrintDetermines inner) :
    PrintDetermines ts := by
  induction ts with
  | nil =>
    intro us x y _ hus hx _ heq
    cases us with
    | nil => exact ⟨rfl, heq⟩
    | cons u us =>
      have hx' : x = chars (u :: us) ++ y := heq
      exact absurd (hx' ▸ hx) (not_ends (first_chars_cons hus y))
  | cons t ts ih =>
    intro us x y hts hus hx hy heq
    cases us with
    | nil =>
      have hy' : chars (t :: ts) ++ x = y := heq
      exact absurd (hy' ▸ hy) (not_ends (first_chars_cons hts x))
    | cons u us =>
      rw [chars_cons, chars_cons, List.append_assoc, List.append_assoc] at heq
      obtain ⟨htoken, hrest⟩ := TokenTree.outline_eq_of_chars hts.1 hus.1
        (by rintro delimiter span inner rfl; exact h _ _ _ List.mem_cons_self)
        (by rintro word rfl; exact first_sequel_ident hx)
        (by rintro word rfl; exact first_sequel_ident hy) heq
      cases ts with
      | nil =>
        cases us with
        | nil => exact ⟨congrArg (List.cons · []) htoken, hrest⟩
        | cons v us =>
          have hx' : x = u.gap ++ (chars (v :: us) ++ y) := by
            rw [← List.append_assoc]
            exact hrest
          exact absurd (hx' ▸ hx) (not_ends_gap hus.2 u y)
      | cons w ts =>
        cases us with
        | nil =>
          have hy' : t.gap ++ (chars (w :: ts) ++ x) = y := by
            rw [← List.append_assoc]
            exact hrest
          exact absurd (hy' ▸ hy) (not_ends_gap hts.2 t x)
        | cons v us =>
          rw [sequel, sequel, List.append_assoc, List.append_assoc] at hrest
          obtain ⟨hgap, hrest⟩ := gap_append_inj (first_chars_cons hts.2 x)
            (first_chars_cons hus.2 y) hrest
          obtain ⟨hstream, hxy⟩ := ih (fun _ _ _ hmem => h _ _ _ (List.mem_cons_of_mem _ hmem))
            hts.2 hus.2 hx hy hrest
          rw [outline_cons_cons, outline_cons_cons, TokenTree.outline_false_eq htoken hgap,
            hstream]
          exact ⟨rfl, hxy⟩

theorem printDetermines (ts : TokenStream) : PrintDetermines ts := by
  induction ts using induction_on_groups with
  | h ts ih => exact PrintDetermines.of_groups ih

/-- **What the printed form tells.** -/
theorem chars_eq_chars_iff (hts : Legible ts) (hus : Legible us) :
    chars ts = chars us ↔ outline Spacing.between ts = outline Spacing.between us := by
  constructor
  · intro h
    exact (printDetermines ts hts hus (.inl closes_nil) (.inl closes_nil)
      (congrArg (· ++ []) h)).1
  · intro h
    rw [← chars_outline ts, h, chars_outline]

/-! ## Runs of tokens -/

theorem prefix_chars (ts us : TokenStream) : chars ts <+: chars (ts ++ us) := by
  induction ts with
  | nil => exact List.nil_prefix
  | cons t ts ih =>
    rw [List.cons_append, chars_cons, chars_cons, List.prefix_append_right_inj]
    cases ts with
    | nil => exact List.nil_prefix
    | cons v ts => exact (List.prefix_append_right_inj _).2 ih

theorem suffix_chars_cons (t : TokenTree) (ts : TokenStream) : chars ts <:+ chars (t :: ts) := by
  cases ts with
  | nil => exact List.nil_suffix
  | cons u us => exact List.suffix_append _ _

theorem suffix_chars (ts us : TokenStream) : chars us <:+ chars (ts ++ us) := by
  induction ts with
  | nil => exact List.suffix_refl _
  | cons t ts ih => exact ih.trans (suffix_chars_cons t (ts ++ us))

/-- **A run prints as a part of the stream**, whatever stands around it. -/
theorem infix_chars (h : ts <:+: us) : chars ts <:+: chars us := by
  obtain ⟨front, back, rfl⟩ := h
  exact (suffix_chars front ts).isInfix.trans (prefix_chars (front ++ ts) back).isInfix

/-- What a group holds prints as a part of the stream. -/
theorem infix_chars_of_mem {delimiter : Delimiter} {span : Span} {inner : TokenStream}
    (h : .group delimiter span inner ∈ ts) : chars inner <:+: chars ts := by
  obtain ⟨front, back, rfl⟩ := List.append_of_mem h
  have hgroup : chars inner <:+: chars [.group delimiter span inner] :=
    ⟨delimiter.opening, delimiter.closing inner, rfl⟩
  exact hgroup.trans (infix_chars ⟨front, back, by simp⟩)

/-- Every level prints as a part of the stream. -/
theorem IsLevel.infix_chars {level : TokenStream} (h : IsLevel level ts) :
    chars level <:+: chars ts := by
  induction h with
  | self => exact List.infix_rfl
  | inside hgroup _ ih => exact ih.trans (infix_chars_of_mem hgroup)

end TokenStream

/-! ## One token in place of another -/

/-- **Two streams that differ in one token** print the same exactly if the two tokens do. -/
theorem TokenStream.chars_exchange (hgap : t.gap = u.gap) (front back : TokenStream) :
    chars (front ++ t :: back) = chars (front ++ u :: back) ↔ t.chars = u.chars := by
  have hsequel : sequel t back = sequel u back := by
    cases back with
    | nil => rfl
    | cons v back => rw [sequel, sequel, hgap]
  induction front with
  | nil => simp only [List.nil_append, chars_cons, hsequel, List.append_cancel_right_eq]
  | cons v front ih =>
    refine Iff.trans ?_ ih
    cases front <;> simp [chars]

/-- The same of two groups that differ in one token. -/
theorem TokenTree.chars_exchange (hgap : t.gap = u.gap) (delimiter : Delimiter) (span : Span)
    (front back : TokenStream) :
    (group delimiter span (front ++ t :: back)).chars =
      (group delimiter span (front ++ u :: back)).chars ↔ t.chars = u.chars := by
  have hclosing : delimiter.closing (front ++ t :: back) =
      delimiter.closing (front ++ u :: back) := by
    cases delimiter <;> simp [Delimiter.closing]
  rw [chars, chars, hclosing, List.append_cancel_right_eq, List.append_cancel_left_eq,
    TokenStream.chars_exchange hgap]

end Tween
