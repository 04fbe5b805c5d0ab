import Tween.Proofs.Token.Compact
import Tween.Proofs.Token.Levels

/-!
# Tokens that can be read back

Two texts of a stream are written in this library, the compact one and the printed one. Both show
words, marks and brackets by characters of their own, so the first character of a token tells what
the token is (`Role.of`), and a word goes on for as long as its characters do (`append_inj_of_roles`).
What no text shows is where a token stands, nor all of the spacing of punctuation:
`TokenStream.outline` is what is left of a stream without that.

* `TokenTree.IsLegible`: the tokens that a text can tell apart.
* `TokenStream.outline`: a stream without its spans, with what counts of its spacing.
-/

namespace Tween

/-! ## Characters -/

/-- What a character of a written stream is a part of. -/
inductive Role where
  | word
  | mark
  | opening
  | closing
  | blank
  deriving DecidableEq

/-- The characters of words, marks and brackets differ. All others count as blanks. -/
def Role.of (c : Char) : Role :=
  if Unicode.isIdentifierPart c then word
  else if c ∈ Punct.alphabet then mark
  else if c ∈ ['(', '[', '{'] then opening
  else if c ∈ [')', ']', '}'] then closing
  else blank

theorem Role.of_eq_word_iff {c : Char} : Role.of c = word ↔ Unicode.isIdentifierPart c = true := by
  unfold Role.of
  split
  · rename_i hpart
    simp [hpart]
  · rename_i hpart
    refine ⟨fun h => ?_, fun h => absurd h hpart⟩
    repeat' split at h
    all_goals cases h

theorem Role.of_eq_mark {c : Char} (h : c ∈ Punct.alphabet) : Role.of c = mark := by
  rw [Role.of, Punct.isIdentifierPart_eq_false h, if_neg Bool.false_ne_true, if_pos h]

theorem Role.of_blank : Role.of ' ' = blank := by decide

theorem Role.of_opening : ∀ c ∈ ['(', '[', '{'], Role.of c = opening := by
  intro c hc
  simp only [List.mem_cons, List.not_mem_nil, or_false] at hc
  rcases hc with rfl | rfl | rfl <;> decide

theorem Role.of_closing : ∀ c ∈ [')', ']', '}'], Role.of c = closing := by
  intro c hc
  simp only [List.mem_cons, List.not_mem_nil, or_false] at hc
  rcases hc with rfl | rfl | rfl <;> decide

/-- The role of the first character. -/
def Role.first (text : List Char) : Option Role :=
  text.head?.map Role.of

@[simp] theorem Role.first_cons (c : Char) (text : List Char) :
    Role.first (c :: text) = some (Role.of c) := rfl

theorem Role.first_append {role : Role} {text : List Char} (h : Role.first text = some role)
    (rest : List Char) : Role.first (text ++ rest) = some role := by
  cases text with
  | nil => cases h
  | cons c text => exact h

/-- Nothing follows, or a closing bracket. -/
def Closes (rest : List Char) : Prop :=
  ∀ role, Role.first rest = some role → role = .closing

theorem closes_nil : Closes [] :=
  fun _ h => by cases h

/-! ## Words -/

/-- The characters are a word: there are some, and all of them are characters of identifiers. -/
def IsPlainWord (cs : List Char) : Prop :=
  cs ≠ [] ∧ IsWordText cs

/-- The characters are a word, perhaps with the `r#` of a raw identifier in front. -/
def IsWord : List Char → Prop
  | 'r' :: '#' :: word => IsPlainWord word
  | word => IsPlainWord word

theorem IsPlainWord.roles {cs : List Char} (h : IsPlainWord cs) : ∀ c ∈ cs, Role.of c = .word :=
  fun c hc => Role.of_eq_word_iff.2 (h.2 c hc)

theorem IsPlainWord.first {cs : List Char} (h : IsPlainWord cs) : Role.first cs = some .word := by
  obtain ⟨c, cs, rfl⟩ := List.exists_cons_of_ne_nil h.1
  rw [Role.first_cons, h.roles c List.mem_cons_self]

/-- Words are made of the characters of identifiers, and of the mark in `r#`. -/
theorem IsWord.roles {cs : List Char} (h : IsWord cs) :
    ∀ c ∈ cs, Role.of c = .word ∨ Role.of c = .mark := by
  unfold IsWord at h
  split at h
  · intro c hc
    simp only [List.mem_cons] at hc
    rcases hc with rfl | rfl | hc
    · exact .inl (by decide)
    · exact .inr (by decide)
    · exact .inl (h.roles c hc)
  · exact fun c hc => .inl (h.roles c hc)

theorem IsWord.first {cs : List Char} (h : IsWord cs) : Role.first cs = some .word := by
  unfold IsWord at h
  split at h
  · rw [Role.first_cons]
    decide
  · exact h.first

/-- **Maximal munch.** What is made of characters of some roles ends where a character of another
role follows. -/
theorem append_inj_of_roles {p : Role → Prop} {v w x y : List Char} (hv : ∀ c ∈ v, p (Role.of c))
    (hw : ∀ c ∈ w, p (Role.of c)) (hx : ∀ role, Role.first x = some role → ¬ p role)
    (hy : ∀ role, Role.first y = some role → ¬ p role) (h : v ++ x = w ++ y) : v = w ∧ x = y := by
  induction v generalizing w with
  | nil =>
    cases w with
    | nil => exact ⟨rfl, h⟩
    | cons c w =>
      rw [List.nil_append] at h
      exact absurd (hw c List.mem_cons_self) (hx _ (by rw [h]; rfl))
  | cons c v ih =>
    cases w with
    | nil =>
      rw [List.nil_append] at h
      exact absurd (hv c List.mem_cons_self) (hy _ (by rw [← h]; rfl))
    | cons d w =>
      obtain ⟨rfl, htail⟩ := List.cons.inj h
      rw [List.forall_mem_cons] at hv hw
      obtain ⟨rfl, rfl⟩ := ih hv.2 hw.2 htail
      exact ⟨rfl, rfl⟩

/-! ## Tokens -/

namespace TokenTree

/-- The role of the first character that a token is written with. -/
def role : TokenTree → Role
  | ident _ | literal _ => .word
  | punct _ => .mark
  | group _ _ _ => .opening

/-- The token is an identifier spelled like this, a mark of the alphabet or a visible group. Literals
are left out, as they are free text. -/
def IsLegible (spells : List Char → Prop) : TokenTree → Prop
  | ident word => spells word.text.toList
  | punct mark => mark.char ∈ Punct.alphabet
  | literal _ => False
  | group delimiter _ _ => delimiter ≠ .invisible

/-- Two legible tokens whose first characters have one role are of one kind. -/
theorem IsLegible.kinds {spells : List Char → Prop} {t u : TokenTree} (ht : t.IsLegible spells)
    (hu : u.IsLegible spells) (h : t.role = u.role) :
    (∃ v w, t = .ident v ∧ u = .ident w) ∨ (∃ m n, t = .punct m ∧ u = .punct n) ∨
      ∃ d s ts e r us, t = .group d s ts ∧ u = .group e r us := by
  cases t with
  | ident v =>
    cases u with
    | ident w => exact .inl ⟨v, w, rfl, rfl⟩
    | literal => exact hu.elim
    | punct | group => cases h
  | punct m =>
    cases u with
    | punct n => exact .inr (.inl ⟨m, n, rfl, rfl⟩)
    | ident | literal | group => cases h
  | literal => exact ht.elim
  | group d s ts =>
    cases u with
    | group e r us => exact .inr (.inr ⟨d, s, ts, e, r, us, rfl, rfl⟩)
    | ident | literal | punct => cases h

end TokenTree

instance : DecidablePred IsPlainWord :=
  fun cs => decidable_of_iff (cs ≠ [] ∧ cs.all Unicode.isIdentifierPart = true) (by
    rw [IsPlainWord, IsWordText, List.all_eq_true])

instance : DecidablePred IsWord := fun cs => by
  unfold IsWord
  split <;> infer_instance

instance {spells : List Char → Prop} [DecidablePred spells] :
    DecidablePred (TokenTree.IsLegible spells)
  | .ident word => inferInstanceAs (Decidable (spells word.text.toList))
  | .punct mark => inferInstanceAs (Decidable (mark.char ∈ Punct.alphabet))
  | .literal _ => .isFalse id
  | .group delimiter _ _ => inferInstanceAs (Decidable (delimiter ≠ .invisible))

/-! ## Outlines -/

mutual

/-- The token without its span. What counts of its spacing is up to `counts`, which is told whether
the token is the last one of its level. -/
def TokenTree.outline (counts : Bool → Spacing → Spacing) (isLast : Bool) : TokenTree → TokenTree
  | .ident word => .ident ⟨word.text, .callSite⟩
  | .punct mark => .punct ⟨mark.char, counts isLast mark.spacing, .callSite⟩
  | .literal value => .literal ⟨value.text, .callSite⟩
  | .group delimiter _ inner => .group delimiter .callSite (TokenStream.outline counts inner)
termination_by structural t => t

/-- The stream without spans, with what counts of its spacing. -/
def TokenStream.outline (counts : Bool → Spacing → Spacing) : List TokenTree → TokenStream
  | [] => []
  | t :: ts => t.outline counts ts.isEmpty :: TokenStream.outline counts ts
termination_by structural ts => ts

end

/-- Spacing does not count: two outlines are equal if the streams are the same up to spans and
spacing. -/
def Spacing.free (_ : Bool) (_ : Spacing) : Spacing :=
  .alone

/-- Spacing counts between two tokens: two outlines are equal if the streams are the same up to
spans, and up to the spacing of a mark that is the last token of its level. -/
def Spacing.between (isLast : Bool) (spacing : Spacing) : Spacing :=
  if isLast then .alone else spacing

theorem TokenStream.outline_cons_cons (counts : Bool → Spacing → Spacing) (t u : TokenTree)
    (us : TokenStream) :
    outline counts (t :: u :: us) = t.outline counts false :: outline counts (u :: us) := rfl

theorem TokenStream.isEmpty_outline (counts : Bool → Spacing → Spacing) (ts : TokenStream) :
    (outline counts ts).isEmpty = ts.isEmpty := by
  cases ts <;> rfl

end Tween
