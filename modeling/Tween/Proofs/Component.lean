import Mathlib.Data.List.Forall2
import Tween.Component
import Tween.Proofs.Token.Reading

/-!
# Fields, components and entries

The components of a host are its animated fields, one by one (`Host.forall₂_components`). Generated
code is about components: what an entry says is a `Mention`, the names and the type in it, and
`ReadsOff` relates a list of entries to the components they are about, one by one again.
-/

namespace Tween

/-! ## The components of a host -/

/-- The field has a name and a type, and no ignore marker. -/
def Field.isAnimated (config : Config) (field : Field) : Bool :=
  field.name.isSome && field.ty.isSome && !field.isIgnored config

namespace Host

/-- The components are the fields that are animated, one by one. -/
theorem forall₂_components (config : Config) (host : Host) :
    List.Forall₂ (fun field component =>
        field.name = some component.name ∧ field.ty = some component.ty)
      (host.fields.filter (Field.isAnimated config)) (host.components config) := by
  rw [components]
  generalize host.fields = fields
  induction fields with
  | nil => exact .nil
  | cons field fields ih =>
    obtain ⟨name?, ty?, markers⟩ := field
    cases hignored : (Field.mk name? ty? markers).isIgnored config with
    | true => simpa [Field.isAnimated, Field.included?, hignored] using ih
    | false =>
      cases name? <;> cases ty? <;>
        simpa [Field.isAnimated, Field.included?, Field.component?, hignored] using ih

theorem mem_components {config : Config} {host : Host} {component : Component} :
    component ∈ host.components config ↔ ∃ field ∈ host.fields, field.isIgnored config = false ∧
      field.name = some component.name ∧ field.ty = some component.ty := by
  rw [components, List.mem_filterMap]
  refine exists_congr fun field => and_congr_right fun _ => ?_
  obtain ⟨name, ty⟩ := component
  obtain ⟨name?, ty?, markers⟩ := field
  rw [Field.included?]
  cases name? <;> cases ty? <;> simp [Field.component?]

end Host

/-! ## Entries about components -/

/-- What an entry says: the names of components in it, and the type it gives. -/
structure Mention where
  names : List Ident
  type? : Option TokenStream

/-- The entry is about this component: it names the component and nothing else, and its type, if it
gives one, is that of the component. -/
structure Mention.IsAbout (m : Mention) (givesType : Bool) (component : Component) : Prop where
  names_ne_nil : m.names ≠ []
  eq_name : ∀ name ∈ m.names, name = component.name
  type?_eq : m.type? = if givesType then some component.ty else none

/-- The entries are about the components, one by one: none is missing, in another's place, or about
anything else. -/
def ReadsOff (reader : Reader Mention) (givesType : Bool) (entries : List TokenStream)
    (components : List Component) : Prop :=
  List.Forall₂ (fun entry component =>
    ∃ m, reader.read? entry = some m ∧ m.IsAbout givesType component) entries components

/-- Entries made of one component each are about these components. -/
theorem ReadsOff.of_map {reader : Reader Mention} {givesType : Bool}
    {piece : Component → TokenStream}
    (h : ∀ component, ∃ m, reader.read? (piece component) = some m ∧ m.IsAbout givesType component)
    (components : List Component) :
    ReadsOff reader givesType (components.map piece) components := by
  rw [ReadsOff, List.forall₂_map_left_iff]
  exact List.forall₂_same.2 fun component _ => h component

end Tween
