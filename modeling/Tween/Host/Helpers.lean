import Tween.Token.Invisible
import Tween.Declaration
import Tween.Config.Basic

/-!
# Helper attributes

A derive may take arguments from attributes of its own in front of the item, as in
`#[shape(crate = path)]`. `helperArguments name` collects the arguments of all of them, without
looking into any.
-/

namespace Tween

/-- Why the helper attributes of an item are refused. -/
inductive HelperError where
  /-- No keyword follows the attributes and the visibility. -/
  | noKeyword
  /-- An attribute called `name` is not a name with one parenthesis group. -/
  | malformed (name : Ident)

/-- The message shows the expected form. -/
def HelperError.report : HelperError → Diagnostic
  | noKeyword => .notAnItem
  | malformed name =>
    { kind := .invalidArguments, message := s!"expected `#[{name.text}(...)]`", span := name.span }

/-- The arguments of an attribute if it is called `name`, none if it is not. -/
def Attribute.helperArguments (name : String) (a : Attribute) :
    Except HelperError (List TokenStream) :=
  match a.nameIs? name with
  | none => .ok []
  | some word =>
    match a.arguments? with
    | none => .error (.malformed word)
    | some arguments => .ok [arguments]

/-- The arguments of every attribute called `name` in front of an item, in their order. -/
def helperArguments (name : String) (item : TokenStream) :
    Except HelperError (List TokenStream) :=
  let declaration := Declaration.read (TokenStream.dissolve item)
  match declaration.content with
  | .ident _ :: _ => (declaration.attributes.mapM (Attribute.helperArguments name)).map List.flatten
  | _ => .error .noKeyword

end Tween
