import Tween.Host.Entries
import Tween.Proofs.Token.CommaList

/-!
# How a field list is cut

`AngleScan.Cuts scan pieces ts`: the stream `ts` is `pieces` with a comma between each two of them,
and a count of angle brackets that begins at `scan`, and anew after every one of these commas, meets
no other comma outside angle brackets, and none of these commas inside.

* `AngleScan.pieces_eq_iff_cuts`: a stream is cut into given pieces exactly if it is written that
  way.
* `TokenStream.entries_of_fieldList`: what a list of entries that close their angle brackets is cut
  into is these entries.
-/

namespace Tween

namespace AngleScan

variable {scan : AngleScan} {piece ts us : TokenStream}

/-- The count after the tokens of a stream. -/
def after (scan : AngleScan) (ts : TokenStream) : AngleScan :=
  ts.foldl next scan

/-- No token of the stream is a comma outside angle brackets. -/
def Uncut (scan : AngleScan) : TokenStream → Prop
  | [] => True
  | t :: ts => scan.cutsAt t = false ∧ (scan.next t).Uncut ts

theorem after_cons (scan : AngleScan) (t : TokenTree) (ts : TokenStream) :
    scan.after (t :: ts) = (scan.next t).after ts := rfl

theorem uncut_cons {t : TokenTree} :
    scan.Uncut (t :: ts) ↔ scan.cutsAt t = false ∧ (scan.next t).Uncut ts := Iff.rfl

instance decidableUncut : (scan : AngleScan) → (ts : TokenStream) → Decidable (scan.Uncut ts)
  | _, [] => inferInstanceAs (Decidable True)
  | scan, t :: ts =>
    have := decidableUncut (scan.next t) ts
    inferInstanceAs (Decidable (scan.cutsAt t = false ∧ (scan.next t).Uncut ts))

/-- A token that neither opens an angle bracket nor is cut at, when none is open. -/
def Plain (t : TokenTree) : Prop :=
  start.next t = start ∧ start.cutsAt t = false

theorem plain_ident (word : Ident) : Plain (.ident word) := ⟨rfl, rfl⟩

theorem plain_group (delimiter : Delimiter) (span : Span) (inner : TokenStream) :
    Plain (.group delimiter span inner) := ⟨rfl, rfl⟩

theorem plain_punct {mark : Punct} (h : mark.char ∉ ['<', '>', '-', ',']) :
    Plain (.punct mark) := by
  simp only [List.mem_cons, List.not_mem_nil, or_false, not_or] at h
  constructor
  · simp [next, h, start]
  · simp [cutsAt, TokenTree.isPunct, h]

/-- Plain tokens in front do not matter for the count. -/
theorem after_plain_append (hts : ∀ t ∈ ts, Plain t) (us : TokenStream) :
    start.after (ts ++ us) = start.after us := by
  induction ts with
  | nil => rfl
  | cons t ts ih =>
    rw [List.forall_mem_cons] at hts
    rw [List.cons_append, after_cons, hts.1.1, ih hts.2]

theorem uncut_plain_append (hts : ∀ t ∈ ts, Plain t) :
    start.Uncut (ts ++ us) ↔ start.Uncut us := by
  induction ts with
  | nil => rfl
  | cons t ts ih =>
    rw [List.forall_mem_cons] at hts
    rw [List.cons_append, uncut_cons, hts.1.1, ih hts.2]
    exact and_iff_right hts.1.2

theorem cutsAt_comma {comma : Punct} (hcomma : comma.char = ',') (hscan : scan.depth = 0) :
    scan.cutsAt (.punct comma) = true := by
  simp [cutsAt, TokenStream.isPunct_of_char hcomma, hscan]

/-- At a comma outside angle brackets the count begins anew. -/
theorem next_comma {comma : Punct} (hcomma : comma.char = ',') (hscan : scan.depth = 0) :
    scan.next (.punct comma) = start := by
  simp [next, hcomma, hscan, start]

theorem exists_comma_of_cutsAt {t : TokenTree} (h : scan.cutsAt t = true) :
    ∃ comma : Punct, t = .punct comma ∧ comma.char = ',' ∧ scan.depth = 0 := by
  simp only [cutsAt, Bool.and_eq_true, beq_iff_eq] at h
  obtain ⟨comma, rfl, hcomma⟩ := TokenStream.exists_punct_of_isPunct h.1
  exact ⟨comma, rfl, hcomma, h.2⟩

/-- The stream is these pieces with a comma outside angle brackets between each two of them, and
has no other such comma. The first piece is read from `scan` on, each other from the start. -/
inductive Cuts : AngleScan → List TokenStream → TokenStream → Prop
  | last {scan : AngleScan} {piece : TokenStream} (huncut : scan.Uncut piece) :
      Cuts scan [piece] piece
  | cons {scan : AngleScan} {piece : TokenStream} {pieces : List TokenStream} {comma : Punct}
      {ts : TokenStream} (huncut : scan.Uncut piece) (hdepth : (scan.after piece).depth = 0)
      (hcomma : comma.char = ',') (hts : Cuts start pieces ts) :
      Cuts scan (piece :: pieces) (piece ++ .punct comma :: ts)

theorem Cuts.push {t : TokenTree} {rest : List TokenStream} (ht : scan.cutsAt t = false)
    (h : Cuts (scan.next t) (piece :: rest) ts) :
    Cuts scan ((t :: piece) :: rest) (t :: ts) := by
  cases h with
  | last huncut => exact .last ⟨ht, huncut⟩
  | cons huncut hdepth hcomma hts =>
    exact .cons (show scan.Uncut (t :: piece) from ⟨ht, huncut⟩) hdepth hcomma hts

theorem cuts_pieces (scan : AngleScan) (ts : TokenStream) : Cuts scan (scan.pieces ts) ts := by
  induction ts generalizing scan with
  | nil => exact .last trivial
  | cons t ts ih =>
    rw [pieces]
    split
    · rename_i ht
      obtain ⟨comma, rfl, hcomma, hdepth⟩ := exists_comma_of_cutsAt ht
      rw [next_comma hcomma hdepth]
      exact .cons (show scan.Uncut [] from trivial) hdepth hcomma (ih start)
    · rename_i ht
      obtain ⟨first, rest, hpieces⟩ := List.exists_cons_of_ne_nil (pieces_ne_nil (scan.next t) ts)
      have h := ih (scan.next t)
      rw [hpieces] at h ⊢
      exact h.push (by simpa using ht)

theorem pieces_append_of_uncut (h : scan.Uncut ts) (us : TokenStream) :
    scan.pieces (ts ++ us) = ((scan.after ts).pieces us).modifyHead (ts ++ ·) := by
  induction ts generalizing scan with
  | nil =>
    obtain ⟨first, rest, hpieces⟩ := List.exists_cons_of_ne_nil (pieces_ne_nil scan us)
    simp [after, hpieces]
  | cons t ts ih =>
    rw [List.cons_append, pieces, if_neg (by simp [h.1]), ih h.2, after_cons]
    cases ((scan.next t).after ts).pieces us <;> rfl

/-- **What a stream is cut into**: the pieces it is written as. -/
theorem pieces_eq_iff_cuts {cut : List TokenStream} : scan.pieces ts = cut ↔ Cuts scan cut ts := by
  constructor
  · rintro rfl
    exact cuts_pieces scan ts
  · intro h
    induction h with
    | last huncut =>
      have := pieces_append_of_uncut huncut []
      simpa [pieces] using this
    | cons huncut hdepth hcomma _ ih =>
      rw [pieces_append_of_uncut huncut, pieces, if_pos (cutsAt_comma hcomma hdepth),
        next_comma hcomma hdepth, ih]
      simp

end AngleScan

namespace TokenStream

open AngleScan

variable {ts : TokenStream} {items entries : List TokenStream}

/-- The stream has no comma outside angle brackets, and closes all that it opens. -/
structure Closed (ts : TokenStream) : Prop where
  uncut : start.Uncut ts
  depth : (start.after ts).depth = 0

theorem closed_iff : Closed ts ↔ start.Uncut ts ∧ (start.after ts).depth = 0 :=
  ⟨fun h => ⟨h.uncut, h.depth⟩, fun h => ⟨h.1, h.2⟩⟩

instance (ts : TokenStream) : Decidable (Closed ts) :=
  decidable_of_iff _ closed_iff.symm

theorem closed_nil : Closed [] := ⟨trivial, rfl⟩

theorem closed_plain_append {us : TokenStream} (hts : ∀ t ∈ ts, Plain t) :
    Closed (ts ++ us) ↔ Closed us := by
  rw [closed_iff, closed_iff, uncut_plain_append hts, after_plain_append hts]

/-- The entries set off by commas. As nothing between two commas is no entry, there may be several
commas between two entries, and some in front of the first and after the last. -/
def FieldList (entries : List TokenStream) (ts : TokenStream) : Prop :=
  ∃ items, CommaList items ts ∧ items.filter (!·.isEmpty) = entries

theorem CommaList.fieldList (h : CommaList entries ts) (hne : ∀ entry ∈ entries, entry ≠ []) :
    FieldList entries ts :=
  ⟨entries, h, List.filter_eq_self.2 (by simpa using hne)⟩

/-- A list of closed items is cut into them, and the nothing after a comma at its end. -/
theorem CommaList.exists_cuts (h : CommaList items ts) (hclosed : ∀ item ∈ items, Closed item) :
    ∃ pieces, Cuts start pieces ts ∧
      pieces.filter (!·.isEmpty) = items.filter (!·.isEmpty) := by
  induction h with
  | nil => exact ⟨[[]], .last trivial, by simp⟩
  | last item => exact ⟨[item], .last (hclosed item (by simp)).uncut, rfl⟩
  | cons item hcomma _ ih =>
    rw [List.forall_mem_cons] at hclosed
    obtain ⟨pieces, hcuts, hpieces⟩ := ih hclosed.2
    refine ⟨item :: pieces, .cons hclosed.1.uncut hclosed.1.depth hcomma hcuts, ?_⟩
    rw [List.filter_cons, List.filter_cons, hpieces]

/-- **The entries of a field list** that close their angle brackets are what it is cut into. -/
theorem entries_of_fieldList (h : FieldList entries ts)
    (hclosed : ∀ entry ∈ entries, Closed entry) : TokenStream.entries ts = entries := by
  obtain ⟨items, hlist, rfl⟩ := h
  have hitems : ∀ item ∈ items, Closed item := by
    intro item hitem
    cases item with
    | nil => exact closed_nil
    | cons t item => exact hclosed _ (List.mem_filter.2 ⟨hitem, rfl⟩)
  obtain ⟨pieces, hcuts, hpieces⟩ := hlist.exists_cuts hitems
  rw [TokenStream.entries, pieces_eq_iff_cuts.2 hcuts, hpieces]

end TokenStream

end Tween
