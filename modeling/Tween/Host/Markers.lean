import Tween.Attribute.Basic
import Tween.Config.Basic

/-!
# Markers on fields

A field is marked by an attribute with the name of the pass, whose arguments are a comma list of
words, as in `#[animatable(ignore)]`. Only the ignore marker is known. Attributes of another name
are none of the pass's business.
-/

namespace Tween

/-- Why an attribute with the name of the pass is refused on a field. -/
inductive MarkerError where
  /-- It is not a name with one list of words. -/
  | malformed (name : Ident)
  /-- It lists a word that is not the ignore marker. -/
  | unknown (name marker : Ident)

namespace MarkerError

/-- The message shows the expected form, or the word that was not expected. -/
def report (config : Config) : MarkerError → Diagnostic
  | malformed name =>
    .invalidArguments config s!"expected `{config.markerText}` on a field" name.span
  | unknown name marker =>
    .invalidArguments config
      s!"unknown field marker `{marker.text}` in `{name.text}`, expected `{config.ignoreWord}`"
      marker.span

end MarkerError

namespace Attribute

/-- The words an attribute marks its field with. -/
def markers (config : Config) (a : Attribute) : Except MarkerError (List Ident) :=
  match a.nameIs? config.attributeName with
  | none => .ok []
  | some name =>
    match a.arguments?.bind (TokenStream.commaList? TokenStream.ident?) with
    | none => .error (.malformed name)
    | some words =>
      match words.find? (·.text ≠ config.ignoreWord) with
      | some word => .error (.unknown name word)
      | none => .ok words

/-- The markers of all attributes of a field; the first bad attribute is the one reported. -/
def allMarkers (config : Config) (attributes : List Attribute) : Except MarkerError (List Ident) :=
  (attributes.mapM (markers config)).map List.flatten

end Attribute

end Tween
