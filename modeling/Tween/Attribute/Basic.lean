import Tween.Token.Commas

/-!
# Attributes

An attribute is a pound sign and a bracket group, `#[body]`. `Attribute.leading` takes all
attributes a stream begins with, and leaves the rest.

The body of an attribute is free. Where it begins with an identifier, that is the attribute's name,
and a body of exactly a name and a parenthesis group has the contents of the group as its arguments.

* `Attribute.tokens_leading`: taking attributes off loses nothing.
-/

namespace Tween

/-- `#[body]`; `span` is that of the brackets. -/
structure Attribute where
  pound : Punct
  span : Span
  body : TokenStream

namespace Attribute

/-- The attribute as tokens. -/
def tokens (a : Attribute) : TokenStream :=
  [.punct a.pound, .group .bracket a.span a.body]

/-- The attributes a stream begins with, and what follows them. -/
def leading : TokenStream → List Attribute × TokenStream
  | .punct pound :: .group .bracket span body :: rest =>
    if pound.char = '#' then
      (⟨pound, span, body⟩ :: (leading rest).1, (leading rest).2)
    else
      ([], .punct pound :: .group .bracket span body :: rest)
  | ts => ([], ts)

theorem tokens_leading (ts : TokenStream) :
    (leading ts).1.flatMap tokens ++ (leading ts).2 = ts := by
  fun_induction leading ts with
  | case1 pound span body rest _ ih => simpa [tokens] using ih
  | case2 => simp
  | case3 => simp

/-- The identifier the body begins with. -/
def name? (a : Attribute) : Option Ident :=
  TokenStream.headIdent? a.body

/-- The name of the attribute if it is `name`, as the token it was written as. -/
def nameIs? (name : String) (a : Attribute) : Option Ident :=
  a.name?.filter (·.text = name)

/-- What is written between the parentheses, if the body is a name and one parenthesis group. -/
def arguments? (a : Attribute) : Option TokenStream :=
  match a.body with
  | [.ident _, .group .parenthesis _ arguments] => some arguments
  | _ => none

theorem arguments?_eq_some {a : Attribute} {arguments : TokenStream} :
    a.arguments? = some arguments ↔
      ∃ name span, a.body = [.ident name, .group .parenthesis span arguments] := by
  unfold arguments?
  split <;> simp_all

/-- The last segment of a path: its last identifier outside any group. -/
def lastSegment? (path : TokenStream) : Option String :=
  (TokenStream.idents path).getLast?.map (·.text)

/-- The traits a `derive` attribute lists, each by the last segment of its path. Any other attribute
lists none, and neither does a `derive` that is not a list of paths. -/
def derivedTraits (a : Attribute) : List String :=
  match a.nameIs? "derive" with
  | none => []
  | some _ =>
    match a.arguments?.bind (TokenStream.commaList? TokenStream.path?) with
    | none => []
    | some paths => paths.filterMap lastSegment?

end Attribute

end Tween
