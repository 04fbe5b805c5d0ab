import Tween.Attribute.Basic

/-!
# Declarations

Items and the entries of a field list begin alike: attributes, then a visibility, then the content.
`Declaration.read` takes a stream apart that way. It never fails, as both may be missing, and loses
nothing (`Declaration.tokens_read`). The word `pub` at the front is always read as a visibility, and
a parenthesis group after it always belongs to it.
-/

namespace Tween

/-- Who may see a declaration. -/
inductive Visibility where
  | inherited
  | pub (word : Ident)
  | restricted (word : Ident) (span : Span) (scope : TokenStream)

namespace Visibility

/-- The visibility as tokens: nothing, `pub` or `pub(scope)`. -/
def tokens : Visibility → TokenStream
  | inherited => []
  | pub word => [.ident word]
  | restricted word span scope => [.ident word, .group .parenthesis span scope]

/-- The visibility a stream begins with, and what follows it. -/
def leading : TokenStream → Visibility × TokenStream
  | .ident word :: .group .parenthesis span scope :: rest =>
    if word.text = "pub" then
      (restricted word span scope, rest)
    else
      (inherited, .ident word :: .group .parenthesis span scope :: rest)
  | .ident word :: rest =>
    if word.text = "pub" then (pub word, rest) else (inherited, .ident word :: rest)
  | ts => (inherited, ts)

theorem tokens_leading (ts : TokenStream) : (leading ts).1.tokens ++ (leading ts).2 = ts := by
  unfold leading
  split <;> (try split) <;> simp [tokens]

end Visibility

/-- Attributes and a visibility in front of something. -/
structure Declaration where
  attributes : List Attribute
  visibility : Visibility
  content : TokenStream

namespace Declaration

/-- The declaration as tokens. -/
def tokens (declaration : Declaration) : TokenStream :=
  declaration.attributes.flatMap Attribute.tokens ++ declaration.visibility.tokens ++
    declaration.content

/-- Attributes as long as there are any, then the visibility, if any; the rest is the content. -/
def read (ts : TokenStream) : Declaration where
  attributes := (Attribute.leading ts).1
  visibility := (Visibility.leading (Attribute.leading ts).2).1
  content := (Visibility.leading (Attribute.leading ts).2).2

theorem tokens_read (ts : TokenStream) : (read ts).tokens = ts := by
  simp only [tokens, read, List.append_assoc, Visibility.tokens_leading, Attribute.tokens_leading]

end Declaration

end Tween
