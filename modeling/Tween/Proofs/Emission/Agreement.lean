import Tween.Proofs.Accessor
import Tween.Proofs.Component
import Tween.Proofs.Emission.Totality
import Tween.Proofs.Vector.Layout

/-!
# The generated declarations agree

What follows a host with several components says the same twelve times, and says it of the fields
that are animated, in the order of their declaration (`Host.emission_agrees`). Ten of the places are
in the companion vector, the other two in the accessor, which is generated apart from it. What
follows a host with one component reads and writes the field of that component.
-/

namespace Tween

open Code

/-- A vector made of components is about them at every place. -/
theorem CompanionVector.exists_readsOff (name : Ident) (visibility runtimePath : TokenStream)
    (components : List Component) (place : Place) :
    ∃ entries, BlockAt (place.way name runtimePath)
        (tokens ⟨name, visibility, .ofComponents components, runtimePath⟩)
        (place.contents entries) ∧
      ReadsOff place.entry place.givesType entries components := by
  refine ⟨_, blockAt_tokens ⟨name, visibility, .ofComponents components, runtimePath⟩ place, ?_⟩
  rw [Fragments.sequence_ofComponents]
  exact ReadsOff.of_map place.read?_piece components

/-- The accessor of a vector is about its components both ways. -/
theorem Accessor.exists_readsOff (host getter setter name : Ident) (runtimePath : TokenStream)
    (components : List Component) :
    ∃ entries statements,
      Exposes (gate runtimePath host) getter setter
        (tokens ⟨host, runtimePath, getter, setter, .vector name components⟩) [.ident name]
        [.ident name, braces (separatedBy (mark ',') entries)] statements.flatten ∧
      ReadsOff Exposed.getEntry false entries components ∧
      ReadsOff Exposed.setStatement false statements components := by
  obtain ⟨entries, hget, hentries⟩ := Exposed.exists_getBody_eq name components
  obtain ⟨statements, hset, hstatements⟩ := Exposed.exists_setBody_eq name components
  have hexposes := exposes_tokens ⟨host, runtimePath, getter, setter, .vector name components⟩
  simp only [hget, hset] at hexposes
  exact ⟨entries, statements, hexposes, hentries, hstatements⟩

namespace Host

variable {config : Config} {host : Host}

/-- **The generated declarations agree.** Two declarations are a companion vector and the accessor
of the host. The entries at each of the places of the vector, the entries of the literal that the
accessor reads the vector with and the statements it is written back with are about the animated
fields: each of them about the field in its position, in all the names it mentions, and with the
type of the field where a type is given. The accessor exposes the very vector. A single declaration
is an accessor that exposes the only animated field, with its type. -/
theorem emission_agrees {e : Emission} (h : host.emission config = .ok e) :
    List.Forall₂ (fun field component =>
        field.name = some component.name ∧ field.ty = some component.ty)
      (host.fields.filter (Field.isAnimated config)) (host.components config) ∧
    (∀ vectorCode accessorCode, e.declarations = [vectorCode, accessorCode] →
      ∃ vector getter setter, config.vectorName host.name = .ok vector ∧
        config.getter = .ok getter ∧ config.setter = .ok setter ∧
        (∀ place : Place, ∃ entries,
          BlockAt (place.way vector config.runtimePath) vectorCode (place.contents entries) ∧
          ReadsOff place.entry place.givesType entries (host.components config)) ∧
        ∃ entries statements,
          Exposes (Accessor.gate config.runtimePath host.name) getter setter accessorCode
            [.ident vector] [.ident vector, braces (separatedBy (mark ',') entries)]
            statements.flatten ∧
          ReadsOff Exposed.getEntry false entries (host.components config) ∧
          ReadsOff Exposed.setStatement false statements (host.components config)) ∧
    ∀ accessorCode, e.declarations = [accessorCode] →
      ∃ component getter setter, host.components config = [component] ∧
        config.getter = .ok getter ∧ config.setter = .ok setter ∧
        Exposes (Accessor.gate config.runtimePath host.name) getter setter accessorCode
          component.ty (member "self" component.name)
          (member "self" component.name ++ [mark '=', word "new_value", mark ';']) := by
  refine ⟨forall₂_components config host, fun vectorCode accessorCode hcode => ?vector,
    fun accessorCode hcode => ?scalar⟩
  case vector =>
    have hne : e.declarations ≠ [] := by simp [hcode]
    obtain ⟨-, ⟨a, component, -, -, rfl⟩ | ⟨vector, a, -, hvector, ha, rfl⟩⟩ :=
      emission_declarations_cases h hne
    · cases hcode
    cases hcode
    obtain ⟨getter, setter, hgetter, hsetter, rfl⟩ := Accessor.ofConfig_eq_ok_iff.1 ha
    exact ⟨vector, getter, setter, hvector, hgetter, hsetter,
      CompanionVector.exists_readsOff vector _ _ _, Accessor.exists_readsOff _ _ _ vector _ _⟩
  case scalar =>
    have hne : e.declarations ≠ [] := by simp [hcode]
    obtain ⟨-, ⟨a, component, hcomponents, ha, rfl⟩ | ⟨vector, a, -, -, -, rfl⟩⟩ :=
      emission_declarations_cases h hne
    · cases hcode
      obtain ⟨getter, setter, hgetter, hsetter, rfl⟩ := Accessor.ofConfig_eq_ok_iff.1 ha
      exact ⟨component, getter, setter, hcomponents, hgetter, hsetter, Accessor.exposes_tokens
        ⟨host.name, config.runtimePath, getter, setter, .scalar component⟩⟩
    · cases hcode

end Host

namespace Sprite

/-- The companion vector of `Sprite`. -/
def vector : CompanionVector where
  name := ⟨"SpriteAnimatableData", .callSite⟩
  visibility := []
  fragments := .ofComponents (host.components .standard)
  runtimePath := segments ["animatable"]

/-- The accessor of `Sprite`. -/
def accessor : Accessor where
  host := ⟨"Sprite", .callSite⟩
  runtimePath := segments ["animatable"]
  getter := ⟨"animatable_data", .callSite⟩
  setter := ⟨"set_animatable_data", .callSite⟩
  exposed := .vector vector.name (host.components .standard)

end Sprite

/-- The ignored field of `Sprite` is left out, the other two are at every place of its vector. -/
theorem emission_agrees_sprite :
    Sprite.host.emission .standard = .ok (.vector Sprite.vector Sprite.accessor) ∧
      Sprite.host.components .standard =
        [⟨⟨"x", .token "x"⟩, [word "f64"]⟩, ⟨⟨"y", .token "y"⟩, [word "f64"]⟩] ∧
      ∃ vector, Config.standard.vectorName Sprite.host.name = .ok vector ∧
        ∀ place : Place, ∃ entries,
          BlockAt (place.way vector Config.standard.runtimePath) Sprite.vector.tokens
            (place.contents entries) ∧
          ReadsOff place.entry place.givesType entries (Sprite.host.components .standard) := by
  have hemission : Sprite.host.emission .standard =
      .ok (.vector Sprite.vector Sprite.accessor) := rfl
  obtain ⟨-, htwo, -⟩ := Host.emission_agrees hemission
  obtain ⟨vector, -, -, hvector, -, -, hplaces, -⟩ :=
    htwo Sprite.vector.tokens Sprite.accessor.tokens rfl
  exact ⟨hemission, rfl, vector, hvector, hplaces⟩

end Tween
