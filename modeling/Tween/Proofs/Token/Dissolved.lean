import Mathlib.Data.List.Chain
import Tween.Proofs.Token.CommaList
import Tween.Proofs.Token.Compact

/-!
# What dissolving groups does to lists and to texts

Invisible groups are written as their contents, and still it makes a difference whether they are
there. A comma in one does not cut a list, and two words with a border between them are not set off
by a blank. Once the groups are dissolved both are as if typed.

* `TokenStream.CommaList.dissolve`: a list is still a list of its items, whatever they hold.
* `TokenStream.isWordText_dissolve_iff`: the text of a stream that is a word with its groups
  dissolved is that word before, and the other way round if no two words are brought together.
-/

namespace Tween

variable {t : TokenTree} {item ts us : TokenStream} {items : List TokenStream}

/-! ## Tokens that stay -/

/-- The token with the invisible groups inside it dissolved. -/
def TokenTree.opened : TokenTree → TokenTree
  | .group delimiter span inner => .group delimiter span (TokenStream.dissolve inner)
  | t => t

theorem TokenTree.dissolve_eq_opened (h : t.IsVisible) : t.dissolve = [t.opened] := by
  cases t with
  | group delimiter span inner =>
    cases delimiter with
    | invisible => exact absurd rfl (h span inner)
    | parenthesis | bracket | brace => rfl
  | ident | punct | literal => rfl

theorem TokenTree.isPunct_opened (c : Char) (t : TokenTree) :
    t.opened.isPunct c = t.isPunct c := by
  cases t <;> rfl

namespace TokenStream

theorem dissolve_eq_map (h : ∀ t ∈ ts, t.IsVisible) : dissolve ts = ts.map TokenTree.opened := by
  induction ts with
  | nil => rfl
  | cons t ts ih =>
    rw [List.forall_mem_cons] at h
    rw [dissolve_cons, TokenTree.dissolve_eq_opened h.1, ih h.2]
    rfl

/-- Without an invisible group of its own an item hides no comma. -/
theorem CommaFree.dissolve (h : CommaFree ts) (hvisible : ∀ t ∈ ts, t.IsVisible) :
    CommaFree (dissolve ts) := by
  rw [dissolve_eq_map hvisible]
  simpa [CommaFree, TokenTree.isPunct_opened] using h

theorem dissolve_dissolve (ts : TokenStream) : dissolve (dissolve ts) = dissolve ts :=
  dissolve_eq_self _ (visible_dissolve ts)

/-! ## Lists -/

theorem dissolve_append_punct (ts : TokenStream) (mark : Punct) (us : TokenStream) :
    dissolve (ts ++ .punct mark :: us) = dissolve ts ++ .punct mark :: dissolve us :=
  dissolve_append ts _

theorem CommaList.dissolve (h : CommaList items ts) :
    CommaList (items.map TokenStream.dissolve) (TokenStream.dissolve ts) := by
  induction h with
  | nil => exact .nil
  | last item => exact .last _
  | cons item hcomma _ ih =>
    rw [dissolve_append_punct]
    exact .cons _ hcomma ih

/-- A stream is empty, one item, or an item in front of a comma and more. -/
@[elab_as_elim]
theorem commaPieces_induction {motive : TokenStream → Prop} (nil : motive [])
    (last : ∀ item, CommaFree item → item ≠ [] → motive item)
    (cons : ∀ item (comma : Punct) ts, CommaFree item → comma.char = ',' → motive ts →
      motive (item ++ .punct comma :: ts)) (ts : TokenStream) : motive ts := by
  have hlist := commaList_commaPieces ts
  generalize hpieces : commaPieces ts = pieces at hlist
  induction hlist with
  | nil => exact nil
  | last item =>
    refine last item (commaFree_of_mem_commaPieces (hpieces ▸ List.mem_cons_self)) ?_
    rintro rfl
    cases hpieces
  | @cons item _ comma ts hcomma _ ih =>
    have hfree : CommaFree item := commaFree_of_mem_commaPieces (hpieces ▸ List.mem_cons_self)
    rw [commaPieces_append_comma hfree hcomma] at hpieces
    exact cons item comma ts hfree hcomma (ih (List.cons.inj hpieces).2)

/-- What stands behind a comma is cut as if it stood alone. -/
theorem commaPieces_suffix {comma : Punct} (hcomma : comma.char = ',') (ts us : TokenStream) :
    commaPieces us <:+ commaPieces (ts ++ .punct comma :: us) := by
  induction ts using commaPieces_induction with
  | nil =>
    rw [List.nil_append, commaPieces, if_pos (isPunct_of_char hcomma)]
    exact List.suffix_cons _ _
  | last item hfree _ =>
    rw [commaPieces_append_comma hfree hcomma]
    exact List.suffix_cons _ _
  | cons item comma' ts hfree hcomma' ih =>
    rw [List.append_assoc, List.cons_append, commaPieces_append_comma hfree hcomma']
    exact ih.trans (List.suffix_cons _ _)

/-- An item that is missing is still missing. -/
theorem nil_mem_commaPieces_dissolve (h : [] ∈ commaPieces ts) :
    [] ∈ commaPieces (dissolve ts) := by
  induction ts using commaPieces_induction with
  | nil => cases h
  | last item hfree hne =>
    rw [commaPieces_of_commaFree hfree hne, List.mem_singleton] at h
    exact absurd h.symm hne
  | cons item comma ts hfree hcomma ih =>
    rw [commaPieces_append_comma hfree hcomma, List.mem_cons] at h
    rw [dissolve_append_punct]
    rcases h with rfl | h
    · rw [dissolve_nil, commaPieces_append_comma (List.forall_mem_nil _) hcomma]
      exact List.mem_cons_self
    · exact (commaPieces_suffix hcomma _ _).subset (ih h)

/-! ## Texts -/

/-- The last token is a word, or `afterWord` where there is none. -/
def endsInWord (afterWord : Bool) (ts : TokenStream) : Bool :=
  (ts.getLast?.map TokenTree.isWord).getD afterWord

theorem compactChars_append (afterWord : Bool) (ts us : TokenStream) :
    compactChars afterWord (ts ++ us) =
      compactChars afterWord ts ++ compactChars (endsInWord afterWord ts) us := by
  induction ts generalizing afterWord with
  | nil => rfl
  | cons t ts ih =>
    have hends : endsInWord afterWord (t :: ts) = endsInWord t.isWord ts := by
      rw [endsInWord, endsInWord, List.getLast?_cons]
      cases ts.getLast? <;> rfl
    rw [List.cons_append, compactChars, compactChars, ih, hends, List.append_assoc]

end TokenStream

theorem blankAfterWord_sublist {b c : Bool} (h : b = true → c = true) :
    (blankAfterWord b).Sublist (blankAfterWord c) := by
  cases b with
  | false => exact List.nil_sublist _
  | true => rw [h rfl]

mutual

theorem TokenTree.compactChars_sublist :
    ∀ (t : TokenTree) {b c : Bool}, (b = true → c = true) →
      (t.compactChars b).Sublist (TokenStream.compactChars c t.dissolve)
  | .ident _, _, _, h | .literal _, _, _, h => by
    simp only [TokenTree.dissolve, TokenStream.compactChars, TokenTree.compactChars,
      List.append_nil]
    exact (blankAfterWord_sublist h).append_right _
  | .punct _, _, _, _ => by
    simp only [TokenTree.dissolve, TokenStream.compactChars, TokenTree.compactChars,
      List.append_nil]
    exact List.Sublist.refl _
  | .group .invisible _ inner, _, _, _ => by
    simp only [TokenTree.dissolve, TokenTree.compactChars, Delimiter.brackets, List.nil_append,
      List.append_nil]
    exact TokenStream.compactChars_sublist inner (fun h => by cases h)
  | .group .parenthesis _ inner, _, _, _ | .group .bracket _ inner, _, _, _
  | .group .brace _ inner, _, _, _ => by
    simp only [TokenTree.dissolve, TokenStream.compactChars, TokenTree.compactChars,
      List.append_nil]
    exact ((TokenStream.compactChars_sublist inner id).append_left _).append_right _

/-- Dissolving groups adds blanks, and takes nothing away. -/
theorem TokenStream.compactChars_sublist :
    ∀ (ts : TokenStream) {b c : Bool}, (b = true → c = true) →
      (TokenStream.compactChars b ts).Sublist
        (TokenStream.compactChars c (TokenStream.dissolve ts))
  | [], _, _, _ => List.nil_sublist _
  | t :: ts, b, c, h => by
    have hends : t.isWord = true → TokenStream.endsInWord c t.dissolve = true := by
      cases t with
      | ident | literal => exact id
      | punct | group => exact fun h => by cases h
    rw [TokenStream.dissolve_cons, TokenStream.compactChars_append, TokenStream.compactChars]
    exact (TokenTree.compactChars_sublist t h).append (TokenStream.compactChars_sublist ts hends)

end

theorem isWordText_append {cs ds : List Char} :
    IsWordText (cs ++ ds) ↔ IsWordText cs ∧ IsWordText ds :=
  List.forall_mem_append

mutual

theorem TokenTree.compactChars_eq_flatMap :
    ∀ {t : TokenTree} {afterWord : Bool}, IsWordText (t.compactChars afterWord) →
      t.compactChars afterWord = t.dissolve.flatMap (TokenTree.compactChars false)
  | .ident _, false, _ | .literal _, false, _ | .punct _, _, _ => (List.append_nil _).symm
  | .ident _, true, h | .literal _, true, h =>
    absurd (h ' ' List.mem_cons_self) (by decide)
  | .group .invisible _ inner, _, h => by
    simp only [TokenTree.dissolve, TokenTree.compactChars, Delimiter.brackets, List.nil_append,
      List.append_nil] at h ⊢
    exact TokenStream.compactChars_eq_flatMap h
  | .group .parenthesis _ _, _, h => absurd (h '(' List.mem_cons_self) (by decide)
  | .group .bracket _ _, _, h => absurd (h '[' List.mem_cons_self) (by decide)
  | .group .brace _ _, _, h => absurd (h '{' List.mem_cons_self) (by decide)

/-- A text that is a word has nothing between the tokens. -/
theorem TokenStream.compactChars_eq_flatMap :
    ∀ {ts : TokenStream} {afterWord : Bool}, IsWordText (TokenStream.compactChars afterWord ts) →
      TokenStream.compactChars afterWord ts =
        (TokenStream.dissolve ts).flatMap (TokenTree.compactChars false)
  | [], _, _ => rfl
  | t :: ts, _, h => by
    rw [TokenStream.compactChars, isWordText_append] at h
    rw [TokenStream.compactChars, TokenStream.dissolve_cons, List.flatMap_append,
      TokenTree.compactChars_eq_flatMap h.1, TokenStream.compactChars_eq_flatMap h.2]

end

namespace TokenStream

/-- No two words stand side by side. -/
def WordsApart (ts : TokenStream) : Prop :=
  ts.IsChain fun t u => ¬ (t.isWord = true ∧ u.isWord = true)

instance : DecidablePred WordsApart :=
  fun ts => inferInstanceAs (Decidable (ts.IsChain fun t u => ¬ (t.isWord = true ∧ u.isWord = true)))

/-- Where no word follows another, no blank is written between them. -/
theorem WordsApart.compactChars_eq_flatMap {afterWord : Bool} (h : WordsApart ts)
    (hfirst : ∀ t ∈ ts.head?, ¬ (afterWord = true ∧ t.isWord = true)) :
    compactChars afterWord ts = ts.flatMap (TokenTree.compactChars false) := by
  induction ts generalizing afterWord with
  | nil => rfl
  | cons t ts ih =>
    obtain ⟨hnext, hrest⟩ := List.isChain_cons.1 h
    have ht : t.compactChars afterWord = t.compactChars false := by
      have hnot := hfirst t rfl
      cases afterWord with
      | false => rfl
      | true =>
        cases t with
        | ident | literal => exact absurd ⟨rfl, rfl⟩ hnot
        | punct | group => rfl
    rw [compactChars, List.flatMap_cons, ht, ih hrest hnext]

/-- A text that is a word has no word after another. -/
theorem wordsApart_of_isWordText {afterWord : Bool} (h : IsWordText (compactChars afterWord ts)) :
    WordsApart ts ∧ ∀ t ∈ ts.head?, ¬ (afterWord = true ∧ t.isWord = true) := by
  induction ts generalizing afterWord with
  | nil => exact ⟨.nil, by simp⟩
  | cons t ts ih =>
    rw [compactChars, isWordText_append] at h
    obtain ⟨hrest, hnext⟩ := ih h.2
    refine ⟨List.isChain_cons.2 ⟨hnext, hrest⟩, ?_⟩
    rintro _ ⟨⟩ ⟨rfl, ht⟩
    cases t with
    | ident | literal => exact absurd (h.1 ' ' List.mem_cons_self) (by decide)
    | punct | group => cases ht

/-- A text that is a word with the groups dissolved is the same before. -/
theorem compactChars_dissolve (h : IsWordText (compactChars false (dissolve ts))) :
    compactChars false (dissolve ts) = compactChars false ts := by
  have hbefore : IsWordText (compactChars false ts) :=
    fun c hc => h c ((compactChars_sublist ts id).subset hc)
  rw [compactChars_eq_flatMap h, compactChars_eq_flatMap hbefore, dissolve_dissolve]

/-- **The text of a stream with its groups dissolved** is a word exactly if it is one before, and no
two words are brought together. -/
theorem isWordText_dissolve_iff :
    IsWordText (compactChars false (dissolve ts)) ↔
      IsWordText (compactChars false ts) ∧ WordsApart (dissolve ts) := by
  constructor
  · intro h
    exact ⟨compactChars_dissolve h ▸ h, (wordsApart_of_isWordText h).1⟩
  · rintro ⟨h, hapart⟩
    rw [hapart.compactChars_eq_flatMap (by simp), ← compactChars_eq_flatMap h]
    exact h

end TokenStream

end Tween
