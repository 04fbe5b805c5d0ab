import Tween.Token.Compact
import Tween.Host.Basic
import Tween.Config.Basic

/-!
# Components

A field that has a name and a type can be animated, unless it carries the ignore marker. What is
left of it then is a component: a name and a type. `Host.components` are those of a host, in the
order of its fields.
-/

namespace Tween

/-- A named and typed field. -/
structure Component where
  name : Ident
  ty : TokenStream

/-- The type by its compact text, which is what decides whether it is supported. -/
def Component.typeText (component : Component) : String :=
  TokenStream.compact component.ty

namespace Field

/-- The field's name and type, if it has both. -/
def component? (field : Field) : Option Component :=
  match field.name, field.ty with
  | some name, some ty => some ⟨name, ty⟩
  | _, _ => none

/-- The field carries the ignore marker. -/
def isIgnored (config : Config) (field : Field) : Bool :=
  field.markers.any (·.text == config.ignoreWord)

/-- The component a field contributes: none if it is ignored. -/
def included? (config : Config) (field : Field) : Option Component :=
  if field.isIgnored config then none else field.component?

end Field

/-- The components of a host. -/
def Host.components (config : Config) (host : Host) : List Component :=
  host.fields.filterMap (Field.included? config)

/-- How many components there are, which decides what is generated. -/
inductive Arity where
  | empty
  | single (component : Component)
  | multiple (components : List Component)

/-- The arity of a list of components. -/
def Arity.of : List Component → Arity
  | [] => empty
  | [component] => single component
  | components => multiple components

end Tween
