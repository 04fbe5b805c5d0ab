import Tween.Proofs.Pointwise
import Tween.Token.Commas

/-!
# Comma lists as they are written

`CommaList items ts`: the stream `ts` is the streams `items` in their order, with a comma between
two of them and perhaps one after the last. The commas are any comma tokens.

* `commaList_commaPieces`: cutting a stream into pieces is undone by writing them as a list.
* `commaPieces_of_commaList`: a list of nonempty items is cut into its items.
* `commaList?_eq_some_iff`: what a reader of comma lists accepts, and what it answers.
-/

namespace Tween.TokenStream

/-- The items one after the other, each but the last ended by a comma, which the last may be too. -/
inductive CommaList : List TokenStream → TokenStream → Prop
  | nil : CommaList [] []
  | last (item : TokenStream) : CommaList [item] item
  | cons (item : TokenStream) {items : List TokenStream} {comma : Punct} {ts : TokenStream}
      (hcomma : comma.char = ',') (hts : CommaList items ts) :
      CommaList (item :: items) (item ++ .punct comma :: ts)

/-- No token of the stream is a comma. Commas inside groups do not count. -/
def CommaFree (ts : TokenStream) : Prop :=
  ∀ t ∈ ts, t.isPunct ',' = false

theorem isPunct_of_char {mark : Punct} {c : Char} (h : mark.char = c) :
    (TokenTree.punct mark).isPunct c = true := by
  simp [TokenTree.isPunct, h]

/-- Every punctuation token is told by its character. -/
theorem exists_punct_of_isPunct {t : TokenTree} {c : Char} (h : t.isPunct c = true) :
    ∃ mark : Punct, t = .punct mark ∧ mark.char = c := by
  cases t with
  | punct mark => exact ⟨mark, rfl, by simpa [TokenTree.isPunct] using h⟩
  | ident _ => cases h
  | literal _ => cases h
  | group _ _ _ => cases h

variable {t : TokenTree} {item ts : TokenStream} {items : List TokenStream}

/-- A token in front of the list belongs to the first item. -/
theorem CommaList.push (t : TokenTree) (h : CommaList (item :: items) ts) :
    CommaList ((t :: item) :: items) (t :: ts) := by
  cases h with
  | last => exact .last _
  | cons _ hcomma hts => exact .cons (t :: item) hcomma hts

/-! ## Cutting a list into its items -/

theorem commaPieces_eq_nil : commaPieces ts = [] ↔ ts = [] := by
  cases ts with
  | nil => simp [commaPieces]
  | cons t ts =>
    rw [commaPieces]
    split
    · simp
    · split <;> simp

theorem commaPieces_cons (ht : t.isPunct ',' = false) (ts : TokenStream) :
    commaPieces (t :: ts) = (t :: (commaPieces ts).headD []) :: (commaPieces ts).tail := by
  rw [commaPieces, ht]
  cases commaPieces ts <;> simp

theorem commaPieces_append_comma {comma : Punct} (hitem : CommaFree item)
    (hcomma : comma.char = ',') (ts : TokenStream) :
    commaPieces (item ++ .punct comma :: ts) = item :: commaPieces ts := by
  induction item with
  | nil => rw [List.nil_append, commaPieces, if_pos (isPunct_of_char hcomma)]
  | cons t item ih =>
    rw [CommaFree, List.forall_mem_cons] at hitem
    rw [List.cons_append, commaPieces_cons hitem.1, ih hitem.2]
    rfl

theorem commaPieces_of_commaFree (hitem : CommaFree item) (hne : item ≠ []) :
    commaPieces item = [item] := by
  induction item with
  | nil => exact absurd rfl hne
  | cons t item ih =>
    rw [CommaFree, List.forall_mem_cons] at hitem
    rw [commaPieces_cons hitem.1]
    cases item with
    | nil => rfl
    | cons u item => rw [ih hitem.2 (by simp)]; rfl

/-- A list of nonempty items without commas of their own is cut into its items. -/
theorem commaPieces_of_commaList (h : CommaList items ts)
    (hitems : ∀ item ∈ items, CommaFree item ∧ item ≠ []) : commaPieces ts = items := by
  induction h with
  | nil => rfl
  | last item =>
    obtain ⟨hfree, hne⟩ := hitems item (by simp)
    exact commaPieces_of_commaFree hfree hne
  | cons item hcomma _ ih =>
    rw [List.forall_mem_cons] at hitems
    rw [commaPieces_append_comma hitems.1.1 hcomma, ih hitems.2]

/-- The pieces of a stream, written as a list, give the stream. -/
theorem commaList_commaPieces (ts : TokenStream) : CommaList (commaPieces ts) ts := by
  induction ts with
  | nil => exact .nil
  | cons t ts ih =>
    cases ht : t.isPunct ',' with
    | true =>
      obtain ⟨comma, rfl, hcomma⟩ := exists_punct_of_isPunct ht
      rw [commaPieces, if_pos ht]
      exact .cons [] hcomma ih
    | false =>
      rw [commaPieces_cons ht]
      cases hp : commaPieces ts with
      | nil =>
        rw [commaPieces_eq_nil.1 hp]
        exact .last [t]
      | cons piece pieces =>
        rw [hp] at ih
        exact ih.push t

theorem commaFree_of_mem_commaPieces {piece : TokenStream} (h : piece ∈ commaPieces ts) :
    CommaFree piece := by
  induction ts generalizing piece with
  | nil => simp [commaPieces] at h
  | cons t ts ih =>
    cases ht : t.isPunct ',' with
    | true =>
      rw [commaPieces, if_pos ht] at h
      rcases List.mem_cons.1 h with rfl | h
      · simp [CommaFree]
      · exact ih h
    | false =>
      rw [commaPieces_cons ht] at h
      -- the first piece is `t` in front of the first piece of the rest, if there is any
      cases hp : commaPieces ts with
      | nil =>
        obtain rfl : piece = [t] := by simpa [hp] using h
        simpa [CommaFree] using ht
      | cons first pieces =>
        rw [hp] at h ih
        rcases List.mem_cons.1 h with rfl | h
        · exact List.forall_mem_cons.2 ⟨ht, ih (by simp)⟩
        · exact ih (List.mem_cons_of_mem _ h)

/-! ## Reading a list -/

/-- **What a reader of comma lists accepts**: the lists all of whose items the reader of items
accepts, provided that it does not accept an empty one. -/
theorem commaList?_eq_some_iff {α : Type} {read? : TokenStream → Option α} {xs : List α}
    (hread : read? [] = none) :
    commaList? read? ts = some xs ↔
      ∃ items, CommaList items ts ∧ (∀ item ∈ items, CommaFree item) ∧
        List.Forall₂ (fun item x => read? item = some x) items xs := by
  rw [commaList?, mapM_eq_some_iff]
  constructor
  · intro h
    exact ⟨_, commaList_commaPieces ts, fun _ => commaFree_of_mem_commaPieces, h⟩
  · rintro ⟨items, hlist, hfree, h⟩
    have hne : ∀ item ∈ items, item ≠ [] := by
      rintro item hitem rfl
      obtain ⟨x, -, hx⟩ := exists_of_forall₂_of_mem h hitem
      rw [hread] at hx
      cases hx
    rw [commaPieces_of_commaList hlist fun item hitem => ⟨hfree item hitem, hne item hitem⟩]
    exact h

theorem commaFree_singleton {word : Ident} : CommaFree [.ident word] := by
  simp [CommaFree, TokenTree.isPunct]

/-- A list of words. -/
theorem commaList?_ident?_eq_some_iff {words : List Ident} :
    commaList? ident? ts = some words ↔ CommaList (words.map fun word => [.ident word]) ts := by
  rw [commaList?_eq_some_iff rfl]
  simp only [ident?_eq_some, forall₂_eq_map_iff]
  constructor
  · rintro ⟨items, hlist, -, rfl⟩
    exact hlist
  · intro h
    exact ⟨_, h, by simpa using fun _ _ => commaFree_singleton, rfl⟩

/-- A list of paths. -/
theorem commaList?_path?_eq_some_iff {paths : List TokenStream} :
    commaList? path? ts = some paths ↔
      CommaList paths ts ∧ ∀ path ∈ paths, CommaFree path ∧ path ≠ [] := by
  rw [commaList?_eq_some_iff rfl]
  simp only [path?_eq_some]
  constructor
  · rintro ⟨items, hlist, hfree, h⟩
    have hsame : List.Forall₂ Eq items paths := h.imp fun _ _ hx => hx.1
    rw [List.forall₂_eq_eq_eq] at hsame
    subst hsame
    refine ⟨hlist, fun path hpath => ⟨hfree path hpath, ?_⟩⟩
    exact (List.forall₂_same.1 h path hpath).2
  · rintro ⟨hlist, hpaths⟩
    refine ⟨paths, hlist, fun path hpath => (hpaths path hpath).1, ?_⟩
    exact List.forall₂_same.2 fun path hpath => ⟨rfl, (hpaths path hpath).2⟩

end Tween.TokenStream
