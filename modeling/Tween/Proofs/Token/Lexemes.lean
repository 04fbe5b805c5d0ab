import Tween.Host.Helpers
import Tween.Host.Read
import Tween.Proofs.Token.Dissolved

/-!
# A stream as it is written out

Written out, a stream is a row of lexemes: its words, marks and literals, and the delimiters of its
visible groups. An invisible group has no delimiters to write, so the row is the same with and
without it. The row can be put together to a stream again, which has no invisible groups then, and
so the row decides what the dissolved stream is.

* `TokenStream.gather_lexemes`: the lexemes of a stream are put together to its dissolved form.
* `TokenStream.eq_dissolve_iff`: the dissolved form is the only stream without invisible groups that
  is written out the same.
* `TokenStream.dissolve_exact`: in addition, what is read from an item is read from its dissolved
  form.
-/

namespace Tween

/-- What stands in a row when a stream is written out. A delimiter keeps the place of its group. -/
inductive Lexeme where
  | word (word : Ident)
  | mark (mark : Punct)
  | literal (value : Literal)
  | opening (delimiter : Delimiter) (span : Span)
  | closing (delimiter : Delimiter) (span : Span)
  deriving DecidableEq

mutual

/-- The lexemes of a token. An invisible group is written out as what it holds. -/
def TokenTree.lexemes : TokenTree → List Lexeme
  | .ident word => [.word word]
  | .punct mark => [.mark mark]
  | .literal value => [.literal value]
  | .group .invisible _ inner => TokenStream.lexemes inner
  | .group delimiter span inner =>
    .opening delimiter span :: (TokenStream.lexemes inner ++ [.closing delimiter span])
termination_by structural t => t

/-- The lexemes of a stream, in the order in which they are written. -/
def TokenStream.lexemes : List TokenTree → List Lexeme
  | [] => []
  | t :: ts => t.lexemes ++ TokenStream.lexemes ts
termination_by structural ts => ts

end

/-! ## Dissolving groups keeps the lexemes -/

theorem TokenStream.lexemes_append (ts us : TokenStream) :
    lexemes (ts ++ us) = lexemes ts ++ lexemes us := by
  induction ts with
  | nil => rfl
  | cons t ts ih => simp only [List.cons_append, lexemes, ih, List.append_assoc]

mutual

theorem TokenTree.lexemes_dissolve :
    ∀ t : TokenTree, TokenStream.lexemes t.dissolve = t.lexemes
  | .ident _ | .punct _ | .literal _ => rfl
  | .group .invisible _ inner => TokenStream.lexemes_dissolve inner
  | .group .parenthesis _ inner | .group .bracket _ inner | .group .brace _ inner => by
    simp only [TokenTree.dissolve, TokenStream.lexemes, TokenTree.lexemes,
      TokenStream.lexemes_dissolve inner, List.append_nil]

/-- Nothing that is written out is lost, added or moved. -/
theorem TokenStream.lexemes_dissolve :
    ∀ ts : TokenStream, TokenStream.lexemes (TokenStream.dissolve ts) = TokenStream.lexemes ts
  | [] => rfl
  | t :: ts => by
    rw [TokenStream.dissolve_cons, TokenStream.lexemes_append, TokenTree.lexemes_dissolve t,
      TokenStream.lexemes_dissolve ts, TokenStream.lexemes]

end

/-! ## The lexemes decide the dissolved form -/

namespace Lexeme

/-- One lexeme in front of those that are put together already. A closing delimiter begins a level
of its own, and the opening one makes that level a group of the level around it. -/
def push : Lexeme → List TokenStream → List TokenStream
  | .word i, level :: levels => (.ident i :: level) :: levels
  | .mark p, level :: levels => (.punct p :: level) :: levels
  | .literal value, level :: levels => (.literal value :: level) :: levels
  | .opening delimiter span, inner :: level :: levels =>
    (.group delimiter span inner :: level) :: levels
  | .closing _ _, levels => [] :: levels
  | _, levels => levels

/-- Lexemes put together from the last to the first, in front of the levels that follow them. -/
def gather (row : List Lexeme) (levels : List TokenStream) : List TokenStream :=
  row.foldr push levels

variable {row : List Lexeme} {inner level : TokenStream} {levels : List TokenStream}

theorem gather_cons (lexeme : Lexeme) (row : List Lexeme) (levels : List TokenStream) :
    gather (lexeme :: row) levels = push lexeme (gather row levels) := rfl

theorem gather_append (row row' : List Lexeme) (levels : List TokenStream) :
    gather (row ++ row') levels = gather row (gather row' levels) :=
  List.foldr_append

/-- What stands between two delimiters becomes a group. -/
theorem gather_enclosed (delimiter : Delimiter) (span : Span)
    (h : gather row ([] :: level :: levels) = inner :: level :: levels) :
    gather (.opening delimiter span :: (row ++ [.closing delimiter span])) (level :: levels) =
      (.group delimiter span inner :: level) :: levels := by
  have hclosing : gather [.closing delimiter span] (level :: levels) = [] :: level :: levels := rfl
  rw [gather_cons, gather_append, hclosing, h, push]

end Lexeme

open Lexeme

mutual

theorem TokenTree.gather_lexemes (level : TokenStream) (levels : List TokenStream) :
    ∀ t : TokenTree, gather t.lexemes (level :: levels) = (t.dissolve ++ level) :: levels
  | .ident _ | .punct _ | .literal _ => rfl
  | .group .invisible _ inner => TokenStream.gather_lexemes level levels inner
  | .group .parenthesis span inner | .group .bracket span inner | .group .brace span inner =>
    gather_enclosed _ span (by
      simpa using TokenStream.gather_lexemes [] (level :: levels) inner)

/-- **What is written out is put together** to the stream without invisible groups. -/
theorem TokenStream.gather_lexemes (level : TokenStream) (levels : List TokenStream) :
    ∀ ts : TokenStream, gather (TokenStream.lexemes ts) (level :: levels) =
      (TokenStream.dissolve ts ++ level) :: levels
  | [] => rfl
  | t :: ts => by
    rw [TokenStream.lexemes, gather_append, TokenStream.gather_lexemes level levels ts,
      TokenTree.gather_lexemes (TokenStream.dissolve ts ++ level) levels t,
      TokenStream.dissolve_cons, List.append_assoc]

end

namespace TokenStream

variable {ts us : TokenStream}

theorem dissolve_eq_dissolve_iff : dissolve ts = dissolve us ↔ lexemes ts = lexemes us := by
  constructor
  · intro h
    rw [← lexemes_dissolve ts, h, lexemes_dissolve]
  · intro h
    have hgather := gather_lexemes [] [] ts
    rw [h, gather_lexemes] at hgather
    simpa using hgather.symm

/-- **The dissolved form** is the stream without invisible groups that is written out the same. -/
theorem eq_dissolve_iff : us = dissolve ts ↔ Visible us ∧ lexemes us = lexemes ts := by
  constructor
  · rintro rfl
    exact ⟨visible_dissolve ts, lexemes_dissolve ts⟩
  · rintro ⟨hvisible, hlexemes⟩
    rw [← dissolve_eq_self us hvisible]
    exact dissolve_eq_dissolve_iff.2 hlexemes

end TokenStream

/-! ## What is read from an item -/

theorem Host.read_dissolve (config : Config) (item : TokenStream) :
    read config (TokenStream.dissolve item) = read config item := by
  rw [read, TokenStream.dissolve_dissolve, read]

theorem helperArguments_dissolve (name : String) (item : TokenStream) :
    helperArguments name (TokenStream.dissolve item) = helperArguments name item := by
  rw [helperArguments, TokenStream.dissolve_dissolve, helperArguments]

/-- **Only invisible groups are dissolved**, and all of them. Part by part and twice it makes no
difference, and an item is read as its dissolved form is, with the same errors at the same places. -/
theorem TokenStream.dissolve_exact (ts : TokenStream) :
    (∀ us, us = dissolve ts ↔ Visible us ∧ lexemes us = lexemes ts) ∧
      (∀ us, dissolve (ts ++ us) = dissolve ts ++ dissolve us) ∧
      dissolve (dissolve ts) = dissolve ts ∧
      (∀ config, Host.read config (dissolve ts) = Host.read config ts) ∧
      ∀ name, helperArguments name (dissolve ts) = helperArguments name ts :=
  ⟨fun _ => eq_dissolve_iff, dissolve_append ts, dissolve_dissolve ts,
    fun config => Host.read_dissolve config ts, fun name => helperArguments_dissolve name ts⟩

end Tween
