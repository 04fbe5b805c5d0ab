/-!
# Tokens and token streams

The data everything else works on. A stream is a list of token trees: identifiers, punctuation
characters, literals carried as opaque text, and delimited groups that hold a stream of their own.
Every token carries the `Span` it was written at, and keeps it through every transformation, so that
a diagnostic can point at the token it is about.

Identifiers are compared by their text, in which a raw identifier keeps its `r#`: `r#f64` and `f64`
are two different words.
-/

namespace Tween

/-- The place a token was written at. Tokens that no input contains stand at the call site. -/
inductive Span where
  | callSite
  | token (label : String)
  deriving DecidableEq

/-- A word, with `r#` in front if it is raw. -/
structure Ident where
  text : String
  span : Span
  deriving DecidableEq

/-- Whether a punctuation character is glued to the token after it (`joint`, as the `-` of `->`). -/
inductive Spacing where
  | alone
  | joint
  deriving DecidableEq

/-- A single punctuation character. -/
structure Punct where
  char : Char
  spacing : Spacing
  span : Span
  deriving DecidableEq

/-- A literal, known by its source text only. -/
structure Literal where
  text : String
  span : Span
  deriving DecidableEq

/-- What encloses a group. An invisible group is what a captured fragment comes wrapped in. -/
inductive Delimiter where
  | parenthesis
  | bracket
  | brace
  | invisible
  deriving DecidableEq

/-- One token, or a group of tokens. -/
inductive TokenTree where
  | ident (word : Ident)
  | punct (mark : Punct)
  | literal (value : Literal)
  | group (delimiter : Delimiter) (span : Span) (inner : List TokenTree)

/-- Tokens in the order they were written. -/
abbrev TokenStream := List TokenTree

namespace TokenTree

/-- The span a token was written at; that of a group covers its delimiters. -/
def span : TokenTree → Span
  | ident word => word.span
  | punct mark => mark.span
  | literal value => value.span
  | group _ span _ => span

/-- The token is the punctuation character `c`, with either spacing. -/
def isPunct (c : Char) : TokenTree → Bool
  | punct mark => mark.char == c
  | _ => false

/-- Identifiers and literals are words: two of them cannot touch. -/
def isWord : TokenTree → Bool
  | ident _ | literal _ => true
  | _ => false

/-- The word at this token, if it is an identifier. -/
def ident? : TokenTree → Option Ident
  | ident word => some word
  | _ => none

@[simp] theorem ident?_eq_some {t : TokenTree} {word : Ident} :
    t.ident? = some word ↔ t = ident word := by
  cases t <;> simp [ident?]

end TokenTree

/-- The identifier a stream begins with. -/
def TokenStream.headIdent? : TokenStream → Option Ident
  | .ident word :: _ => some word
  | _ => none

/-- The identifiers of a stream, those inside its groups left out. -/
def TokenStream.idents (ts : TokenStream) : List Ident :=
  ts.filterMap TokenTree.ident?

end Tween
