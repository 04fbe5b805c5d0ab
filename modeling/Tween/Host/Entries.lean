import Tween.Token.Basic

/-!
# The entries of a field list

A field list is cut at its commas, but a comma between angle brackets belongs to the type it stands
in. Angle brackets are no groups, so their depth is counted along the way. The `>` of an arrow `->`
closes nothing, and one too many leaves the depth at zero.

* `AngleScan.next`: how a token changes the count.
* `AngleScan.pieces`: what stands between the commas that count.
* `TokenStream.entries`: the pieces that are not empty.
-/

namespace Tween

/-- The angle brackets that are open, and whether the last token was a dash glued to the next. -/
structure AngleScan where
  depth : Nat
  afterDash : Bool
  deriving DecidableEq

namespace AngleScan

/-- Nothing read yet. -/
def start : AngleScan := ⟨0, false⟩

/-- The count after one more token. -/
def next (scan : AngleScan) : TokenTree → AngleScan
  | .punct mark =>
    if mark.char = '<' then ⟨scan.depth + 1, false⟩
    else if mark.char = '>' then ⟨if scan.afterDash then scan.depth else scan.depth - 1, false⟩
    else ⟨scan.depth, mark.char = '-' ∧ mark.spacing = .joint⟩
  | _ => ⟨scan.depth, false⟩

/-- The token is a comma outside all angle brackets. -/
def cutsAt (scan : AngleScan) (t : TokenTree) : Bool :=
  t.isPunct ',' && scan.depth == 0

/-- The pieces of a stream between the commas it is cut at, read from `scan` on. There is one more
of them than there are such commas. -/
def pieces (scan : AngleScan) : TokenStream → List TokenStream
  | [] => [[]]
  | t :: ts =>
    if scan.cutsAt t then
      [] :: (scan.next t).pieces ts
    else
      ((scan.next t).pieces ts).modifyHead (t :: ·)

theorem pieces_ne_nil (scan : AngleScan) (ts : TokenStream) : scan.pieces ts ≠ [] := by
  induction ts generalizing scan with
  | nil => simp [pieces]
  | cons t ts ih =>
    rw [pieces]
    split
    · simp
    · simpa [List.modifyHead_eq_nil_iff] using ih (scan.next t)

end AngleScan

/-- The entries of a field list. An empty piece, as after a trailing comma, is no entry. -/
def TokenStream.entries (ts : TokenStream) : List TokenStream :=
  (AngleScan.start.pieces ts).filter (!·.isEmpty)

theorem TokenStream.ne_nil_of_mem_entries {ts entry : TokenStream}
    (h : entry ∈ TokenStream.entries ts) : entry ≠ [] := by
  simpa [TokenStream.entries] using (List.mem_filter.1 h).2

end Tween
