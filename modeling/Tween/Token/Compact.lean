import Tween.Token.Basic

/-!
# The compact text of a type

`TokenStream.compact` writes a type the way one would write it by hand: `Vec<f64>`, `&'a str`,
`Fn(u8)->u8`. A blank separates two words that would otherwise run together, and one follows every
comma; nothing else is padded. It is the only notion of equality of types there is: two types are
the same if their compact texts are.
-/

namespace Tween

/-- The bracket characters around the contents of a group, none for an invisible one. -/
def Delimiter.brackets : Delimiter → List Char × List Char
  | parenthesis => (['('], [')'])
  | bracket => (['['], [']'])
  | brace => (['{'], ['}'])
  | invisible => ([], [])

/-- A word after a word is set off by a blank. -/
def blankAfterWord : (afterWord : Bool) → List Char
  | true => [' ']
  | false => []

mutual

/-- The compact text of one token tree, `afterWord` telling whether a word stands right before. -/
def TokenTree.compactChars (afterWord : Bool) : TokenTree → List Char
  | .ident word => blankAfterWord afterWord ++ word.text.toList
  | .literal value => blankAfterWord afterWord ++ value.text.toList
  | .punct mark => if mark.char = ',' then [',', ' '] else [mark.char]
  | .group delimiter _ inner =>
    delimiter.brackets.1 ++ TokenStream.compactChars false inner ++ delimiter.brackets.2
termination_by structural t => t

/-- The compact text of a stream. A group counts as a bracket on both sides: no blank is written at
its borders, be they visible or not. -/
def TokenStream.compactChars (afterWord : Bool) : List TokenTree → List Char
  | [] => []
  | t :: ts => t.compactChars afterWord ++ TokenStream.compactChars t.isWord ts
termination_by structural ts => ts

end

/-- The compact text of a type. -/
def TokenStream.compact (ty : TokenStream) : String :=
  String.ofList (TokenStream.compactChars false ty)

@[simp] theorem TokenStream.toList_compact (ty : TokenStream) :
    (TokenStream.compact ty).toList = TokenStream.compactChars false ty := by
  simp [TokenStream.compact]

end Tween
