import Tween.Config.Arguments
import Tween.Host.Helpers
import Tween.Host.Read

/-!
# Deriving `Shape`

The derive that declares an item animatable. Unlike the attribute it takes any item, but generic
parameters it does not support. The path to the trait may be set by helper attributes on the item,
`#[shape(crate = path)]`; all of them are collected before the first is looked into, and the path
named last is the one used.
-/

namespace Tween

open Code

namespace Shape

/-- `# [automatically_derived] impl runtimePath :: Shape for name { }` -/
def impl (runtimePath : TokenStream) (name : Ident) : TokenStream :=
  pounded [word "automatically_derived"] ++
  [word "impl"] ++ runtimePath ++ segments ["Shape"] ++ [word "for", .ident name, braces []]

/-- Generic parameters are not supported. -/
def genericsReport (name : Ident) : Diagnostic where
  kind := .unsupportedGenerics
  message := "#[derive(Shape)] does not support generic parameters"
  span := name.span

/-- The configuration after the arguments of several helpers, `none` if one is not understood. -/
def applyHelpers? (config : Config) (helpers : List TokenStream) : Option Config :=
  helpers.foldlM Config.withShapeArguments? config

/-- The implementation of the trait for an item, or why there is none. -/
def derive (item : TokenStream) : Except Diagnostic TokenStream :=
  match Host.read .standard item with
  | .error e => .error (e.report .standard)
  | .ok host =>
    if host.isGeneric then
      .error (genericsReport host.name)
    else
      match helperArguments "shape" item with
      | .error e => .error e.report
      | .ok helpers =>
        match applyHelpers? .standard helpers with
        | none => .error (.invalidShapeArguments host.name.span)
        | some config => .ok (impl config.runtimePath host.name)

/-- What the derive emits for an item. -/
def output (item : TokenStream) : TokenStream :=
  match derive item with
  | .error diagnostic => diagnostic.tokens
  | .ok tokens => tokens

end Shape

end Tween
