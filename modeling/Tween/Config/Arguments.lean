import Tween.Token.Commas
import Tween.Token.Compact
import Tween.Config.Basic

/-!
# Attribute arguments

The arguments of the attribute are a comma list of three forms: `crate = path`,
`capability = Trait` and `types(path, …)`. They are applied to the standard configuration in the
order they are written, so a later argument wins over an earlier one of its form, and the first bad
one is reported. The derive helper `#[shape(…)]` knows `crate = path` alone.

* `Config.ofArguments`: the configuration an argument list asks for, or what is wrong with it.
* `Config.withShapeArguments?`: a configuration with the path that a helper names last.
-/

namespace Tween

/-- One argument of the attribute. -/
inductive Argument where
  | crate (path : TokenStream)
  | capability (name : Ident)
  | types (paths : List TokenStream)

namespace Argument

/-- The path of a piece of the form `crate = path`. -/
def runtimePath? : TokenStream → Option TokenStream
  | .ident word :: .punct mark :: path =>
    if word.text = "crate" ∧ mark.char = '=' then TokenStream.path? path else none
  | _ => none

/-- The trait of a piece of the form `capability = Trait`. -/
def capability? : TokenStream → Option Ident
  | [.ident word, .punct mark, .ident name] =>
    if word.text = "capability" ∧ mark.char = '=' then some name else none
  | _ => none

/-- The paths of a piece of the form `types(path, …)`. -/
def types? : TokenStream → Option (List TokenStream)
  | [.ident word, .group .parenthesis _ paths] =>
    if word.text = "types" then TokenStream.commaList? TokenStream.path? paths else none
  | _ => none

/-- A piece of an argument list as an argument. -/
def read? (piece : TokenStream) : Option Argument :=
  (runtimePath? piece).map crate <|> (capability? piece).map capability <|> (types? piece).map types

end Argument

/-- Why the arguments of the attribute are refused. -/
inductive ArgumentError where
  /-- The tokens are no list of arguments. -/
  | malformed
  /-- A type list names a type that is no floating-point type. -/
  | notAFloat (ty : TokenStream)
  /-- A type list names no type. -/
  | noTypes

namespace ArgumentError

/-- The message names the type, and points at its first token. -/
def report : ArgumentError → Diagnostic
  | malformed =>
    .invalidArguments .standard
      s!"expected `crate = path`, `capability = Trait` or `types(...)`: {Diagnostic.unreadable}"
      .callSite
  | notAFloat ty =>
    .invalidArguments .standard
      (s!"`{TokenStream.compact ty}` is not a floating-point type, " ++
        "`types(...)` accepts `f32` and `f64`")
      ((ty.head?.map TokenTree.span).getD .callSite)
  | noTypes =>
    .invalidArguments .standard "`types(...)` needs at least one type" .callSite

end ArgumentError

namespace Config

/-- The compact texts of the types that `0.0` and `as f64` can be applied to. -/
def floatTypes : List String :=
  ["f32", "f64"]

/-- A type of a type list, by its compact text. -/
def floatType (ty : TokenStream) : Except ArgumentError String :=
  let text := TokenStream.compact ty
  if floatTypes.contains text then .ok text else .error (.notAFloat ty)

/-- The types of a type list; there has to be at least one. -/
def typeList (paths : List TokenStream) : Except ArgumentError (List String) :=
  match paths.mapM floatType with
  | .error e => .error e
  | .ok [] => .error .noTypes
  | .ok types => .ok types

/-- The configuration with one more argument taken into account. -/
def apply (config : Config) : Argument → Except ArgumentError Config
  | .crate path => .ok { config with runtimePath := path }
  | .capability name => .ok { config with requiredTrait := name.text }
  | .types paths => (typeList paths).map fun types => { config with supportedTypes := types }

/-- The configuration that the arguments of the attribute ask for. -/
def ofArguments (ts : TokenStream) : Except ArgumentError Config :=
  match TokenStream.commaList? Argument.read? ts with
  | none => .error .malformed
  | some arguments => arguments.foldlM apply standard

/-- The configuration with the path that the arguments of a `shape` helper name last. -/
def withShapeArguments? (config : Config) (ts : TokenStream) : Option Config :=
  (TokenStream.commaList? Argument.runtimePath? ts).map fun paths =>
    { config with runtimePath := paths.getLast?.getD config.runtimePath }

end Config

/-- The arguments of a `shape` helper are not understood. -/
def Diagnostic.invalidShapeArguments (span : Span) : Diagnostic where
  kind := .invalidArguments
  message := "invalid #[shape] arguments: expected `crate = path`"
  span

end Tween
