import Tween.Component
import Tween.Token.Code

/-!
# The accessor of a host

The implementation of `Animatable`: the type of a host's data, a method that reads the data off the
host, and one that writes it back. The data of a host with a single component is that field itself,
with its own type; otherwise it is the companion vector.
-/

namespace Tween

open Code

/-- What a host exposes as its data. -/
inductive Exposed where
  | scalar (component : Component)
  | vector (name : Ident) (components : List Component)

namespace Exposed

/-- The type of the data. -/
def type : Exposed → TokenStream
  | scalar component => component.ty
  | vector name _ => [.ident name]

/-- The body of the reading method: the field, or a vector literal with an entry per component. -/
def getBody : Exposed → TokenStream
  | scalar component => member "self" component.name
  | vector name components =>
    [.ident name, braces (separatedBy (mark ',') (components.map fun component =>
      [.ident component.name, mark ':'] ++ member "self" component.name))]

/-- The body of the writing method: one assignment per component. -/
def setBody : Exposed → TokenStream
  | scalar component =>
    member "self" component.name ++ [mark '=', word "new_value", mark ';']
  | vector _ components =>
    components.flatMap fun component =>
      member "self" component.name ++ [mark '='] ++ member "new_value" component.name ++ [mark ';']

end Exposed

/-- What the implementation of `Animatable` is made of. -/
structure Accessor where
  host : Ident
  runtimePath : TokenStream
  getter : Ident
  setter : Ident
  exposed : Exposed

namespace Accessor

/-- The accessor of a host, named as the configuration asks for. -/
def ofConfig (config : Config) (host : Ident) (exposed : Exposed) : Except InvalidName Accessor :=
  match config.getter, config.setter with
  | .ok getter, .ok setter => .ok ⟨host, config.runtimePath, getter, setter, exposed⟩
  | .error e, _ | _, .error e => .error e

/-- `Self :: AnimatableData` -/
def dataType : TokenStream :=
  [word "Self"] ++ segments ["AnimatableData"]

/-- The implementation as tokens. -/
def tokens (a : Accessor) : TokenStream :=
  [word "impl"] ++ a.runtimePath ++ segments ["Animatable"] ++ [word "for", .ident a.host, braces (
    words ["type", "AnimatableData"] ++ [mark '='] ++ a.exposed.type ++ [mark ';'] ++
    [word "fn", .ident a.getter, parens [mark '&', word "self"]] ++
    operator '-' '>' ++ dataType ++ [braces a.exposed.getBody] ++
    [word "fn", .ident a.setter, parens ([mark '&'] ++ words ["mut", "self"] ++
      [mark ',', word "new_value", mark ':'] ++ dataType)] ++
    [braces a.exposed.setBody])]

end Accessor

end Tween
