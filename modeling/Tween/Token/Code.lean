import Tween.Token.Basic

/-!
# Writing code as tokens

Short names for the tokens that generated code is made of. All of them stand at the call site;
`TokenStream.anchoredAt` moves a whole stream to the place it is about.
-/

namespace Tween

namespace Code

/-- A plain word. -/
def word (text : String) : TokenTree :=
  .ident ⟨text, .callSite⟩

/-- Several words in a row. -/
def words (texts : List String) : TokenStream :=
  texts.map word

/-- A punctuation character that stands alone. -/
def mark (c : Char) : TokenTree :=
  .punct ⟨c, .alone, .callSite⟩

/-- An operator of two characters, the first glued to the second. -/
def operator (c d : Char) : TokenStream :=
  [.punct ⟨c, .joint, .callSite⟩, mark d]

/-- A literal with the given source text. -/
def literal (text : String) : TokenTree :=
  .literal ⟨text, .callSite⟩

/-- `( ts )` -/
def parens (ts : TokenStream) : TokenTree :=
  .group .parenthesis .callSite ts

/-- `[ ts ]` -/
def brackets (ts : TokenStream) : TokenTree :=
  .group .bracket .callSite ts

/-- Braces around `ts`. -/
def braces (ts : TokenStream) : TokenTree :=
  .group .brace .callSite ts

/-- `:: a :: b` for the segments `a`, `b`. -/
def segments (texts : List String) : TokenStream :=
  texts.flatMap fun text => operator ':' ':' ++ [word text]

/-- `# [ ts ]` -/
def pounded (ts : TokenStream) : TokenStream :=
  [mark '#', brackets ts]

/-- The field of a value: `owner . field`. -/
def member (owner : String) (field : Ident) : TokenStream :=
  [word owner, mark '.', .ident field]

/-- Every item, with a comma after each of them. -/
def eachEnded (items : List TokenStream) : TokenStream :=
  items.flatMap fun item => item ++ [mark ',']

/-- The items with `separator` between them. -/
def separatedBy (separator : TokenTree) (items : List TokenStream) : TokenStream :=
  List.intercalate [separator] items

end Code

mutual

/-- The tree with `span` as the place of all its tokens. -/
def TokenTree.anchoredAt (span : Span) : TokenTree → TokenTree
  | .ident word => .ident { word with span }
  | .punct mark => .punct { mark with span }
  | .literal value => .literal { value with span }
  | .group delimiter _ inner => .group delimiter span (TokenStream.anchoredAt span inner)
termination_by structural t => t

/-- The stream with `span` as the place of all its tokens. -/
def TokenStream.anchoredAt (span : Span) : List TokenTree → TokenStream
  | [] => []
  | t :: ts => t.anchoredAt span :: TokenStream.anchoredAt span ts
termination_by structural ts => ts

end

end Tween
