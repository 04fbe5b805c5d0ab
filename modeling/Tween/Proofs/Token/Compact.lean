import Tween.Proofs.Token.Everywhere
import Tween.Token.Compact
import Tween.Unicode.Identifier

/-!
# Types whose text is a word

The compact text of a type leaves the places of its tokens open, and most of the blanks between
them, and still no two tokens run into a word: a word that follows another is set off by a blank,
and punctuation and brackets are not written with the characters of words. So a type whose text is a
word is that word, a single identifier (`TokenStream.eq_ident_of_compact`).

That takes what any lexer sees to: punctuation is made of certain characters, and a literal is not
spelled like a word (`TokenTree.IsLexed`).
-/

namespace Tween

/-- The characters that punctuation is made of. -/
def Punct.alphabet : List Char :=
  "!#$%&'*+,-./:;<=>?@^|~".toList

namespace TokenTree

/-- The token is one that source text can hold: punctuation has a character of the alphabet, and a
literal is spelled with a digit or a quote where a word would have a letter. -/
def IsLexed : TokenTree → Prop
  | punct mark => mark.char ∈ Punct.alphabet
  | literal value => Unicode.isIdentifier value.text.toList = false
  | ident _ | group _ _ _ => True

instance : DecidablePred IsLexed
  | punct mark => inferInstanceAs (Decidable (mark.char ∈ Punct.alphabet))
  | literal value => inferInstanceAs (Decidable (Unicode.isIdentifier value.text.toList = false))
  | ident _ | group _ _ _ => .isTrue trivial

theorem shallow_isLexed : Shallow IsLexed :=
  fun _ _ _ _ _ => trivial

end TokenTree

/-! ## Characters that no word has -/

/-- All characters are characters of identifiers. -/
def IsWordText (cs : List Char) : Prop :=
  ∀ c ∈ cs, Unicode.isIdentifierPart c = true

theorem Unicode.isIdentifierPart_of_mem {cs : List Char} (h : isIdentifier cs = true) {c : Char}
    (hc : c ∈ cs) : isIdentifierPart c = true := by
  cases cs with
  | nil => cases hc
  | cons d ds =>
    rw [isIdentifier, Bool.and_eq_true, List.all_eq_true] at h
    rcases List.mem_cons.1 hc with rfl | hc
    · exact isIdentifierPart_of_start h.1
    · exact h.2 c hc

theorem Punct.isIdentifierPart_eq_false {c : Char} (h : c ∈ alphabet) :
    Unicode.isIdentifierPart c = false := by
  have hall : alphabet.all (!Unicode.isIdentifierPart ·) = true := by decide
  simpa using List.all_eq_true.1 hall c h

/-- Every visible token but a word at the front is written with a character that no word has. -/
theorem TokenTree.exists_separator {t : TokenTree} {afterWord : Bool} (hvisible : t.IsVisible)
    (hlexed : t.IsLexed) (hword : t.isWord = true → afterWord = true) :
    ∃ c ∈ t.compactChars afterWord, Unicode.isIdentifierPart c = false := by
  cases t with
  | ident word =>
    rw [hword rfl]
    exact ⟨' ', List.mem_append_left _ List.mem_cons_self, by decide⟩
  | literal value =>
    rw [hword rfl]
    exact ⟨' ', List.mem_append_left _ List.mem_cons_self, by decide⟩
  | punct mark =>
    refine ⟨mark.char, ?_, Punct.isIdentifierPart_eq_false hlexed⟩
    rw [compactChars]
    split
    · rename_i hcomma
      rw [hcomma]
      exact List.mem_cons_self
    · exact List.mem_cons_self
  | group delimiter span inner =>
    cases delimiter with
    | parenthesis => exact ⟨'(', by simp [compactChars, Delimiter.brackets], by decide⟩
    | bracket => exact ⟨'[', by simp [compactChars, Delimiter.brackets], by decide⟩
    | brace => exact ⟨'{', by simp [compactChars, Delimiter.brackets], by decide⟩
    | invisible => exact absurd rfl (hvisible span inner)

namespace TokenStream

variable {ty : TokenStream}

/-- A type whose text is a word has one token, and that one is written as a word. -/
theorem exists_isWord_of_compactChars (hvisible : ∀ t ∈ ty, t.IsVisible)
    (hlexed : ∀ t ∈ ty, t.IsLexed) (hword : Unicode.isIdentifier (compactChars false ty) = true) :
    ∃ t, ty = [t] ∧ t.isWord = true := by
  have hnone : ∀ {t : TokenTree} {afterWord : Bool}, t ∈ ty →
      t.compactChars afterWord ⊆ compactChars false ty →
      ¬ (t.isWord = true → afterWord = true) := by
    intro t afterWord ht hsub hafter
    obtain ⟨c, hc, hpart⟩ := TokenTree.exists_separator (hvisible t ht) (hlexed t ht) hafter
    rw [Unicode.isIdentifierPart_of_mem hword (hsub hc)] at hpart
    cases hpart
  cases ty with
  | nil => cases hword
  | cons t ts =>
    have ht : t.isWord = true := by
      have hfirst := @hnone t false List.mem_cons_self (List.subset_append_left _ _)
      simpa using hfirst
    cases ts with
    | nil => exact ⟨t, rfl, ht⟩
    | cons u us =>
      -- a second token is set off from the first, or none of it is a word
      have hsecond := @hnone u t.isWord (List.mem_cons_of_mem _ List.mem_cons_self)
        (List.subset_append_of_subset_right _ (List.subset_append_left _ _))
      exact absurd (fun _ => ht) hsecond

/-- **A type whose text is a word** is that word. -/
theorem eq_ident_of_compact (hvisible : ∀ t ∈ ty, t.IsVisible) (hlexed : ∀ t ∈ ty, t.IsLexed)
    (hword : Unicode.isIdentifier (compact ty).toList = true) :
    ∃ word, ty = [.ident word] ∧ word.text = compact ty := by
  rw [toList_compact] at hword
  obtain ⟨t, rfl, ht⟩ := exists_isWord_of_compactChars hvisible hlexed hword
  cases t with
  | ident word =>
    refine ⟨word, rfl, ?_⟩
    rw [← String.toList_inj, toList_compact]
    exact (List.append_nil _).symm
  | literal value =>
    have hvalue : Unicode.isIdentifier value.text.toList = false :=
      hlexed _ List.mem_cons_self
    rw [← List.append_nil value.text.toList] at hvalue
    exact absurd hword (by rw [Bool.not_eq_true]; exact hvalue)
  | punct => cases ht
  | group => cases ht

end TokenStream

end Tween
