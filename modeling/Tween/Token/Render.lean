import Tween.Token.Basic

/-!
# The printed form of tokens

`TokenStream.render` writes one blank between two tokens, and none after a joint punctuation
character. Braces are padded (`{ a }`), an empty pair of braces is `{ }`, and an invisible group is
written as its contents alone, though the blanks around it stay.

The work is done on lists of characters (`TokenStream.chars`).
-/

namespace Tween

namespace Delimiter

/-- The characters written in front of a group's contents. -/
def opening : Delimiter → List Char
  | parenthesis => ['(']
  | bracket => ['[']
  | brace => ['{', ' ']
  | invisible => []

/-- The characters written after a group's contents. Contents of braces are padded on both sides. -/
def closing (contents : TokenStream) : Delimiter → List Char
  | parenthesis => [')']
  | bracket => [']']
  | brace => if contents.isEmpty then ['}'] else [' ', '}']
  | invisible => []

end Delimiter

/-- What is written between a token and the next one. -/
def TokenTree.gap : TokenTree → List Char
  | .punct ⟨_, .joint, _⟩ => []
  | _ => [' ']

mutual

/-- The characters of one token tree. -/
def TokenTree.chars : TokenTree → List Char
  | .ident word => word.text.toList
  | .punct mark => [mark.char]
  | .literal value => value.text.toList
  | .group delimiter _ inner =>
    delimiter.opening ++ TokenStream.chars inner ++ delimiter.closing inner
termination_by structural t => t

/-- The characters of a stream: its trees, with the gap of each but the last after it. -/
def TokenStream.chars : List TokenTree → List Char
  | [] => []
  | [t] => t.chars
  | t :: u :: ts => t.chars ++ t.gap ++ TokenStream.chars (u :: ts)
termination_by structural ts => ts

end

/-- The printed form of a stream. -/
def TokenStream.render (ts : TokenStream) : String :=
  String.ofList (TokenStream.chars ts)

@[simp] theorem TokenStream.toList_render (ts : TokenStream) :
    (TokenStream.render ts).toList = TokenStream.chars ts := by
  simp [TokenStream.render]

theorem TokenStream.render_inj {ts us : TokenStream} :
    TokenStream.render ts = TokenStream.render us ↔
      TokenStream.chars ts = TokenStream.chars us := by
  rw [← String.toList_inj, toList_render, toList_render]

end Tween
