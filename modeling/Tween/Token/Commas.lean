import Tween.Token.Basic

/-!
# Comma lists

An argument list is a sequence of pieces, each ended by a comma or by the end of the stream.
`TokenStream.commaPieces` cuts a stream that way: a comma at the very end closes the last piece and
opens none, and an empty stream has no piece at all. Two commas in a row, or one in front, leave an
empty piece, which no reader of a piece accepts.

`TokenStream.commaList? read?` reads every piece with `read?`, and fails if one of them does.
-/

namespace Tween.TokenStream

/-- The pieces of a comma list. Commas inside groups do not count. -/
def commaPieces : TokenStream → List TokenStream
  | [] => []
  | t :: ts =>
    if t.isPunct ',' then
      [] :: commaPieces ts
    else
      match commaPieces ts with
      | [] => [[t]]
      | piece :: pieces => (t :: piece) :: pieces

/-- The list of what `read?` makes of each piece. -/
def commaList? {α : Type} (read? : TokenStream → Option α) (ts : TokenStream) : Option (List α) :=
  (commaPieces ts).mapM read?

/-- A path is whatever stands between two commas: one or more tokens, none of them a comma. -/
def path? : TokenStream → Option TokenStream
  | [] => none
  | piece => some piece

/-- A piece that is a single identifier. -/
def ident? : TokenStream → Option Ident
  | [.ident word] => some word
  | _ => none

@[simp] theorem path?_eq_some {ts us : TokenStream} : path? ts = some us ↔ ts = us ∧ ts ≠ [] := by
  cases ts <;> simp [path?]

@[simp] theorem ident?_eq_some {ts : TokenStream} {word : Ident} :
    ident? ts = some word ↔ ts = [.ident word] := by
  unfold ident?
  split <;> simp_all

end Tween.TokenStream
