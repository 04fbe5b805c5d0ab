import Mathlib.Data.List.Induction
import Tween.Proofs.Host.Entries
import Tween.Token.Code

/-!
# Where the entries of a field list stand

Two counts of angle brackets meet in a field list. One runs through all of it and tells where it is
cut. The other begins anew with each entry, which is how a reader of one entry counts. They agree
because the list is cut only where no angle bracket is open, and nothing but a comma stands between
two entries.

* `AngleScan.depth_after_eq_iff`: what the count counts, told from the end of what was read.
* `TokenStream.entries_eq_iff_spread`: an entry has no comma outside angle brackets by its own count,
  and what is no entry are commas outside angle brackets by the count through the list.
* `TokenStream.entries_exact`: in addition, all entries but the last close their angle brackets, and
  entries that are joined by single commas are the same entries again.
-/

namespace Tween

open AngleScan

/-- The entries stand in the stream in their order, and all else are commas outside angle brackets
by a count that goes on from `scan` through the stream. Any number of them may stand in front of the
first entry, at least one stands between two, and what stands behind the last begins with one. -/
inductive AngleScan.Spread : AngleScan → List TokenStream → TokenStream → Prop
  | done {scan : AngleScan} : Spread scan [] []
  | comma {scan : AngleScan} {entries : List TokenStream} {comma : Punct} {ts : TokenStream}
      (hcomma : comma.char = ',') (hdepth : scan.depth = 0)
      (hts : Spread (scan.next (.punct comma)) entries ts) :
      Spread scan entries (.punct comma :: ts)
  | last {scan : AngleScan} {entry : TokenStream} : Spread scan [entry] entry
  | entry {scan : AngleScan} {entry : TokenStream} {entries : List TokenStream} {comma : Punct}
      {ts : TokenStream} (hcomma : comma.char = ',') (hdepth : (scan.after entry).depth = 0)
      (hts : Spread ((scan.after entry).next (.punct comma)) entries ts) :
      Spread scan (entry :: entries) (entry ++ .punct comma :: ts)

/-- The tokens can be an entry: there are some, and by a count of their own no comma stands outside
angle brackets. -/
def AngleScan.IsEntry (entry : TokenStream) : Prop :=
  entry ≠ [] ∧ start.Uncut entry

namespace AngleScan

/-! ## What the count counts -/

/-- The stream ends in a dash glued to the next token, which makes an arrow of a `>`. -/
def EndsInDash (ts : TokenStream) : Prop :=
  ∃ front : TokenStream, ∃ dash : Punct,
    ts = front ++ [.punct dash] ∧ dash.char = '-' ∧ dash.spacing = .joint

/-- The number of angle brackets that a stream leaves open. A `>` closes one of them, if there is
one, but the `>` of an arrow closes none. -/
inductive OpenAngles : TokenStream → Nat → Prop
  | nil : OpenAngles [] 0
  | opening {ts : TokenStream} {n : Nat} {mark : Punct} (hmark : mark.char = '<')
      (hts : OpenAngles ts n) : OpenAngles (ts ++ [.punct mark]) (n + 1)
  | closing {ts : TokenStream} {n : Nat} {mark : Punct} (hmark : mark.char = '>')
      (hdash : ¬ EndsInDash ts) (hts : OpenAngles ts n) : OpenAngles (ts ++ [.punct mark]) (n - 1)
  | arrow {ts : TokenStream} {n : Nat} {mark : Punct} (hmark : mark.char = '>')
      (hdash : EndsInDash ts) (hts : OpenAngles ts n) : OpenAngles (ts ++ [.punct mark]) n
  | other {ts : TokenStream} {n : Nat} {t : TokenTree}
      (ht : ∀ mark : Punct, t = .punct mark → mark.char ≠ '<' ∧ mark.char ≠ '>')
      (hts : OpenAngles ts n) : OpenAngles (ts ++ [t]) n

section Count

variable {scan : AngleScan} {mark : Punct} {t : TokenTree} {ts : TokenStream} {n : Nat}

theorem after_append_singleton (scan : AngleScan) (ts : TokenStream) (t : TokenTree) :
    scan.after (ts ++ [t]) = (scan.after ts).next t := by
  simp [after]

theorem depth_next_opening (hmark : mark.char = '<') :
    (scan.next (.punct mark)).depth = scan.depth + 1 := by
  simp [next, hmark]

theorem depth_next_closing (hmark : mark.char = '>') :
    (scan.next (.punct mark)).depth = if scan.afterDash then scan.depth else scan.depth - 1 := by
  simp [next, hmark]

theorem depth_next_other
    (ht : ∀ mark : Punct, t = .punct mark → mark.char ≠ '<' ∧ mark.char ≠ '>') :
    (scan.next t).depth = scan.depth := by
  cases t with
  | punct mark => simp [next, ht mark rfl]
  | group => rfl
  | ident => rfl
  | literal => rfl

theorem afterDash_next :
    (scan.next t).afterDash = true ↔
      ∃ dash : Punct, t = .punct dash ∧ dash.char = '-' ∧ dash.spacing = .joint := by
  cases t with
  | punct mark =>
    rw [next]
    split_ifs <;> simp_all
  | group => simp [next]
  | ident => simp [next]
  | literal => simp [next]

theorem afterDash_after : (start.after ts).afterDash = true ↔ EndsInDash ts := by
  rcases ts.eq_nil_or_concat with rfl | ⟨front, t, rfl⟩
  · simp [after, start, EndsInDash]
  · rw [List.concat_eq_append, after_append_singleton, afterDash_next]
    simp [EndsInDash]

theorem openAngles_after (ts : TokenStream) : OpenAngles ts (start.after ts).depth := by
  induction ts using List.reverseRecOn with
  | nil => exact .nil
  | append_singleton ts t ih =>
    rw [after_append_singleton]
    by_cases ht : ∀ mark : Punct, t = .punct mark → mark.char ≠ '<' ∧ mark.char ≠ '>'
    · rw [depth_next_other ht]
      exact .other ht ih
    · push Not at ht
      obtain ⟨mark, rfl, hmark⟩ := ht
      by_cases hopening : mark.char = '<'
      · rw [depth_next_opening hopening]
        exact .opening hopening ih
      · have hclosing : mark.char = '>' := hmark hopening
        rw [depth_next_closing hclosing]
        split_ifs with hdash
        · exact .arrow hclosing (afterDash_after.1 hdash) ih
        · exact .closing hclosing (fun h => hdash (afterDash_after.2 h)) ih

theorem OpenAngles.depth_after (h : OpenAngles ts n) : (start.after ts).depth = n := by
  induction h with
  | nil => rfl
  | opening hmark _ ih => rw [after_append_singleton, depth_next_opening hmark, ih]
  | closing hmark hdash _ ih =>
    rw [after_append_singleton, depth_next_closing hmark, if_neg (mt afterDash_after.1 hdash), ih]
  | arrow hmark hdash _ ih =>
    rw [after_append_singleton, depth_next_closing hmark, if_pos (afterDash_after.2 hdash), ih]
  | other ht _ ih => rw [after_append_singleton, depth_next_other ht, ih]

/-- **What the count counts**: the angle brackets that are left open. -/
theorem depth_after_eq_iff : (start.after ts).depth = n ↔ OpenAngles ts n :=
  ⟨fun h => h ▸ openAngles_after ts, OpenAngles.depth_after⟩

end Count

variable {scan : AngleScan} {entries pieces : List TokenStream} {ts : TokenStream}

/-! ## From pieces to entries -/

/-- A piece without tokens leaves the comma behind it to the commas around. -/
theorem Cuts.spread (h : Cuts scan pieces ts) : Spread scan (pieces.filter (!·.isEmpty)) ts := by
  induction h with
  | @last scan piece huncut =>
    by_cases hpiece : piece = []
    · subst hpiece
      exact .done
    · simpa [hpiece] using Spread.last
  | @cons scan piece pieces comma ts huncut hdepth hcomma _ ih =>
    have hnext : (scan.after piece).next (.punct comma) = start := next_comma hcomma hdepth
    rw [← hnext] at ih
    by_cases hpiece : piece = []
    · subst hpiece
      exact .comma hcomma hdepth ih
    · simpa [hpiece] using Spread.entry hcomma hdepth ih

/-- At each comma the count is back at the start, so every piece is counted on its own. -/
theorem Cuts.uncut (h : Cuts scan pieces ts) (hscan : scan = start) :
    ∀ piece ∈ pieces, start.Uncut piece := by
  induction h with
  | last huncut =>
    subst hscan
    simpa using huncut
  | cons huncut _ _ _ ih =>
    subst hscan
    exact List.forall_mem_cons.2 ⟨huncut, ih rfl⟩

theorem isEntry_of_mem_entries {entry : TokenStream} (h : entry ∈ TokenStream.entries ts) :
    IsEntry entry :=
  ⟨TokenStream.ne_nil_of_mem_entries h,
    (cuts_pieces start ts).uncut rfl entry (List.mem_filter.1 h).1⟩

end AngleScan

namespace TokenStream

variable {entry ts : TokenStream} {es : List TokenStream} {comma : Punct}

/-! ## From entries to pieces -/

theorem entries_comma (hcomma : comma.char = ',') (ts : TokenStream) :
    entries (.punct comma :: ts) = entries ts := by
  have hcut : start.cutsAt (.punct comma) = true := cutsAt_comma hcomma rfl
  have hnext : start.next (.punct comma) = start := next_comma hcomma rfl
  simp [entries, pieces, hcut, hnext]

theorem entries_of_isEntry (h : IsEntry entry) : entries entry = [entry] := by
  rw [entries, pieces_eq_iff_cuts.2 (.last h.2)]
  simp [h.1]

theorem entries_append_comma (h : IsEntry entry) (hdepth : (start.after entry).depth = 0)
    (hcomma : comma.char = ',') (ts : TokenStream) :
    entries (entry ++ .punct comma :: ts) = entry :: entries ts := by
  rw [entries, pieces_eq_iff_cuts.2 (.cons h.2 hdepth hcomma (cuts_pieces start ts))]
  simp [h.1, entries]

/-- Entries that are spread over a stream are its entries. -/
theorem entries_of_spread {scan : AngleScan} (h : Spread scan es ts) (hscan : scan = start)
    (hes : ∀ e ∈ es, IsEntry e) : entries ts = es := by
  induction h with
  | done => rfl
  | comma hcomma hdepth _ ih =>
    rw [entries_comma hcomma]
    exact ih (next_comma hcomma hdepth) hes
  | last => exact entries_of_isEntry (hes _ List.mem_cons_self)
  | entry hcomma hdepth _ ih =>
    subst hscan
    rw [List.forall_mem_cons] at hes
    rw [entries_append_comma hes.1 hdepth hcomma, ih (next_comma hcomma hdepth) hes.2]

/-- **What the entries of a field list are.** -/
theorem entries_eq_iff_spread :
    entries ts = es ↔ Spread start es ts ∧ ∀ e ∈ es, IsEntry e := by
  constructor
  · rintro rfl
    exact ⟨(cuts_pieces start ts).spread, fun e he => isEntry_of_mem_entries he⟩
  · rintro ⟨hspread, hes⟩
    exact entries_of_spread hspread rfl hes

/-! ## Entries joined again -/

/-- Only the last entry can leave an angle bracket open. -/
theorem depth_after_entry {scan : AngleScan} (h : Spread scan es ts) (hscan : scan = start) :
    ∀ e ∈ es.dropLast, (start.after e).depth = 0 := by
  induction h with
  | done => simp
  | comma hcomma hdepth _ ih => exact ih (next_comma hcomma hdepth)
  | last => simp
  | @entry _ entry entries _ _ hcomma hdepth _ ih =>
    subst hscan
    have hrest := ih (next_comma hcomma hdepth)
    cases entries with
    | nil => simp
    | cons e entries =>
      rw [List.dropLast_cons_cons, List.forall_mem_cons]
      exact ⟨hdepth, hrest⟩

theorem entries_separatedBy (hcomma : comma.char = ',') (hes : ∀ e ∈ es, IsEntry e)
    (hdepth : ∀ e ∈ es.dropLast, (start.after e).depth = 0) :
    entries (Code.separatedBy (.punct comma) es) = es := by
  induction es with
  | nil => rfl
  | cons e es ih =>
    rw [List.forall_mem_cons] at hes
    cases es with
    | nil => simpa [Code.separatedBy, List.intercalate] using entries_of_isEntry hes.1
    | cons e' es =>
      rw [List.dropLast_cons_cons, List.forall_mem_cons] at hdepth
      have hjoined : Code.separatedBy (.punct comma) (e :: e' :: es) =
          e ++ .punct comma :: Code.separatedBy (.punct comma) (e' :: es) := by
        simp [Code.separatedBy, List.intercalate]
      rw [hjoined, entries_append_comma hes.1 hdepth.1 hcomma, ih hes.2 hdepth.2]

/-- **The entries of a field list** are what stands between the commas outside angle brackets, which
are counted as `OpenAngles` says. Each but the last closes its angle brackets, and joined by single
commas they are the same again. -/
theorem entries_exact (ts : TokenStream) :
    (∀ us n, (start.after us).depth = n ↔ OpenAngles us n) ∧
      (∀ es, entries ts = es ↔ Spread start es ts ∧ ∀ e ∈ es, e ≠ [] ∧ start.Uncut e) ∧
      (∀ e ∈ (entries ts).dropLast, (start.after e).depth = 0) ∧
      ∀ comma : Punct, comma.char = ',' →
        entries (Code.separatedBy (.punct comma) (entries ts)) = entries ts := by
  obtain ⟨hspread, hes⟩ := entries_eq_iff_spread.1 (Eq.refl (entries ts))
  have hdepth := depth_after_entry hspread rfl
  exact ⟨fun _ _ => depth_after_eq_iff, fun _ => entries_eq_iff_spread, hdepth,
    fun _ hcomma => entries_separatedBy hcomma hes hdepth⟩

end TokenStream

/-! ### An angle bracket that stays open -/

namespace Unclosed

open Code

/-- `f: Box<Fn(u8) -> u8, A>` -/
def arrow : TokenStream :=
  [word "f", mark ':', word "Box", mark '<', word "Fn", parens [word "u8"]] ++ operator '-' '>' ++
    [word "u8", mark ',', word "A", mark '>']

/-- `p: Pair<A, B>` -/
def closed : TokenStream :=
  [word "p", mark ':', word "Pair", mark '<', word "A", mark ',', word "B", mark '>']

/-- `q: Pair<A, B,` -/
def unclosed : TokenStream :=
  [word "q", mark ':', word "Pair", mark '<', word "A", mark ',', word "B", mark ',']

/-- `, f: Box<Fn(u8) -> u8, A>,, p: Pair<A, B>, q: Pair<A, B,` -/
def contents : TokenStream :=
  mark ',' :: arrow ++ [mark ',', mark ','] ++ closed ++ mark ',' :: unclosed

end Unclosed

open TokenStream Unclosed in
/-- The bracket that stays open keeps the last comma, and no comma is left behind the entries. -/
theorem entries_exact_unclosed :
    Spread start [arrow, closed, unclosed] contents ∧ (start.after unclosed).depth = 1 ∧
      entries (Code.separatedBy (Code.mark ',') [arrow, closed, unclosed]) =
        [arrow, closed, unclosed] := by
  obtain ⟨-, hentries, -, hjoined⟩ := entries_exact contents
  have hcontents : entries contents = [arrow, closed, unclosed] := rfl
  rw [hcontents] at hjoined
  exact ⟨((hentries _).1 hcontents).1, rfl, hjoined ⟨',', .alone, .callSite⟩ rfl⟩

end Tween
