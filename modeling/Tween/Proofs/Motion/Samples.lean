import Tween.Emission
import Tween.Motion.Samples
import Tween.Proofs.Motion.Code

/-!
# Motion of the sample hosts

The declarations of the sample hosts, with what is generated for them (`Sample.attributeOutput_eq`).
It is code for their motion (`Sample.generated_tokens`), and this motion is that of their components
one by one (`Sample.motion_by_components`).
-/

namespace Tween

theorem Emission.tokens_scalar (accessor : Accessor) :
    (scalar accessor).tokens = accessor.tokens := by
  simp [tokens, declarations, diagnostic?]

theorem Emission.tokens_vector (declaration : CompanionVector) (accessor : Accessor) :
    (vector declaration accessor).tokens = declaration.tokens ++ accessor.tokens := by
  simp [tokens, declarations, diagnostic?]

namespace Motion.Sample

open Code Animated

/-! ## Declarations -/

/-- The name of the host. -/
def name : Sample → String
  | circle => "Circle"
  | sprite => "Sprite"
  | pair => "Pair"
  | wide => "Wide"
  | gauge => "Gauge"
  | dial => "Dial"

/-- The names of the animated fields, in their order. -/
def animatedNames : Sample → List String
  | circle => ["radius", "x_offset"]
  | sprite => ["x", "y", "alpha"]
  | pair => ["a", "b"]
  | wide => ["a", "b", "c", "d", "e", "f", "g", "h"]
  | gauge => ["level"]
  | dial => ["turn"]

/-- The names of all fields. -/
def fieldNames (sample : Sample) : List String :=
  sample.animatedNames ++ ["tag"]

/-- The type of the numbers of a precision. -/
def typeOf : Precision → TokenStream
  | .single => [word "f32"]
  | .double => [word "f64"]

/-- The components of the host. -/
def components (sample : Sample) : List Component :=
  List.zipWith (fun name p => ⟨⟨name, .callSite⟩, typeOf p⟩) sample.animatedNames sample.precisions

/-- The arguments of the attribute on the host. -/
def arguments : Sample → TokenStream
  | pair => [word "types", parens [word "f32"]]
  | _ => []

/-- The declaration of the host: its animated fields, and an ignored field `tag` of type `u32`. -/
def item (sample : Sample) : TokenStream :=
  pounded [word "derive", parens [word "Shape"]] ++ [word "struct", word sample.name, braces
    (eachEnded (sample.components.map fun c => [.ident c.name, mark ':'] ++ c.ty) ++
      pounded [word "animatable", parens [word "ignore"]] ++ [word "tag", mark ':', word "u32"])]

/-! ## Generated code -/

/-- The name of the companion vector. -/
def vectorName (sample : Sample) : Ident :=
  ⟨sample.name ++ "AnimatableData", .callSite⟩

/-- The accessor of the host. -/
def accessor (sample : Sample) (exposed : Exposed) : Accessor where
  host := ⟨sample.name, .callSite⟩
  runtimePath := segments ["animatable"]
  getter := ⟨"animatable_data", .callSite⟩
  setter := ⟨"set_animatable_data", .callSite⟩
  exposed

/-- The companion vector of components. -/
def companion (sample : Sample) (components : List Component) : CompanionVector where
  name := sample.vectorName
  visibility := []
  fragments := .ofComponents components
  runtimePath := segments ["animatable"]

/-- What is generated for the host. -/
def emission (sample : Sample) : Emission :=
  match sample.components with
  | [component] => .scalar (sample.accessor (.scalar component))
  | components =>
    .vector (sample.companion components)
      (sample.accessor (.vector sample.vectorName components))

/-- The attribute puts the generated code after the host. -/
theorem attributeOutput_eq (sample : Sample) :
    attributeOutput sample.arguments sample.item =
      .ok (TokenStream.removeAttribute "animatable" sample.item ++ sample.emission.tokens) := by
  cases sample <;> rfl

theorem animatedNames_slots (sample : Sample) :
    HostValue.animatedNames sample.slots sample.fieldNames = namesOf sample.components := by
  cases sample <;> rfl

theorem nodup_fieldNames (sample : Sample) : sample.fieldNames.Nodup := by
  cases sample <;> decide

theorem typed_components (sample : Sample) :
    Typed sample.components (Slot.precisions sample.slots) := by
  cases sample <;> simp [Typed, components, animatedNames, precisions, slots, Slot.precisions,
    typeOf, Precision.ofType?, word]

theorem components_ne_nil (sample : Sample) : sample.components ≠ [] := by
  cases sample <;> simp [components, animatedNames, precisions]

/-- **What is generated for a sample** is code for its motion. -/
theorem generated_tokens (sample : Sample) :
    Generated sample.fieldNames sample.slots sample.emission.tokens := by
  have htyped := sample.typed_components
  have hnames := sample.nodup_fieldNames
  have hanimated := sample.animatedNames_slots
  have hne := sample.components_ne_nil
  rw [emission]
  match hcomponents : sample.components with
  | [] => exact absurd hcomponents hne
  | [component] =>
    rw [hcomponents] at htyped hanimated
    have haccessor := Accessor.implements_scalar hnames ⟨sample.name, .callSite⟩
      ⟨"animatable_data", .callSite⟩ ⟨"set_animatable_data", .callSite⟩ (segments ["animatable"])
      htyped hanimated
    rw [Emission.tokens_scalar]
    exact .scalar htyped.length_eq.symm haccessor
  | c :: d :: components =>
    rw [hcomponents] at htyped hanimated
    have hnodup : (namesOf (c :: d :: components)).Nodup :=
      hanimated ▸ HostValue.nodup_animatedNames hnames sample.slots
    have hvector := CompanionVector.implements sample.vectorName [] (segments ["animatable"])
      htyped hnodup (List.cons_ne_nil _ _)
    have haccessor := Accessor.implements_vector hnames ⟨sample.name, .callSite⟩
      ⟨"animatable_data", .callSite⟩ ⟨"set_animatable_data", .callSite⟩ (segments ["animatable"])
      htyped hanimated (by simp) sample.vectorName
    rw [← hanimated] at hvector haccessor
    rw [Emission.tokens_vector]
    exact .vector hvector haccessor

/-! ## Motion -/

/-- **The motion of a sample is that of its components.** What is generated for it is code for this
motion. After any run, every component of the host, of the target and of the data in hand is what
the same steps make of that component as a number, and also what they make of a host with no other
component. The squared magnitude is the sum of those of the components in their order, and the
operators that change a vector in place give what the others give. -/
theorem motion_by_components (sample : Sample) (host target : HostValue sample.slots)
    (steps : List (Step (Data (HostValue sample.slots)))) :
    (∃ code, attributeOutput sample.arguments sample.item =
        .ok (TokenStream.removeAttribute "animatable" sample.item ++ code) ∧
      Generated sample.fieldNames sample.slots code) ∧
    (∀ i, (HostValue.component i).state ((State.start host target).run steps) =
      (State.start ((HostValue.component i).host host) ((HostValue.component i).host target)).run
        (steps.map (Step.map (HostValue.component i).data))) ∧
    (∀ i word, (HostValue.lone i word).state ((State.start host target).run steps) =
      (State.start ((HostValue.lone i word).host host) ((HostValue.lone i word).host target)).run
        (steps.map (Step.map (HostValue.lone i word).data))) ∧
    Arithmetic.normSq ((State.start host target).run steps).inHand =
      Components.sum (List.ofFn fun i => Arithmetic.normSq
        ((HostValue.component i).data ((State.start host target).run steps).inHand)) ∧
    ∀ (d : Data (HostValue sample.slots)) (t : Float),
      Arithmetic.addAssign ((State.start host target).run steps).inHand d =
        Arithmetic.add ((State.start host target).run steps).inHand d ∧
      Arithmetic.subAssign ((State.start host target).run steps).inHand d =
        Arithmetic.sub ((State.start host target).run steps).inHand d ∧
      Arithmetic.scaled ((State.start host target).run steps).inHand t =
        Arithmetic.scale ((State.start host target).run steps).inHand t := by
  refine ⟨⟨_, sample.attributeOutput_eq, sample.generated_tokens⟩, fun i => ?component,
    fun i word => ?lone, ?magnitude, fun d t => ⟨?add, ?sub, rfl⟩⟩
  case component => rw [Projection.state_run, Projection.state_start]
  case lone => rw [Projection.state_run, Projection.state_start]
  case magnitude => exact HostData.normSq_eq_sum _
  case add => exact (HostData.inPlace _).addAssign _ d
  case sub => exact (HostData.inPlace _).subAssign _ d

/-! ### A run of a host of mixed precision -/

/-- A value of the second sample. -/
def spriteValue (x y : Float32) (alpha : Float) (tag : UInt32) : HostValue sprite.slots :=
  (x, y, alpha, tag, ())

/-- Data of the second sample. -/
def spriteData (x y : Float32) (alpha : Float) : Data (HostValue sprite.slots) :=
  (x, y, alpha, ())

/-- A sprite moves half of the way to another one, its data are changed in hand and written back,
and what is in hand is changed once more. -/
def spriteRun : State (HostValue sprite.slots) :=
  (State.start (spriteValue 1.0 2.0 3.0 1) (spriteValue 4.0 5.0 6.0 2)).run
    [.towards 0.5, .get, .subAssign (spriteData 7.0 8.0 9.0), .scale 1.5, .set,
      .lerp (spriteData 10.0 11.0 12.0) 0.25]

/-- The component of the second sample at a position. -/
def spriteComponent (i : Fin 3) :
    Projection (HostValue sprite.slots) ((Slot.precisions sprite.slots).get i).Carrier :=
  @HostValue.component sprite.slots i

/-- What becomes of every component of the host, of the target and of what is in hand, as numbers:
factors are brought to the precision of the two components of single precision, and stay as they
are for the third. The squares are taken in double precision. -/
theorem motion_by_components_sprite :
    let half : Float32 := (0.5 : Float).toFloat32
    let more : Float32 := (1.5 : Float).toFloat32
    let quarter : Float32 := (0.25 : Float).toFloat32
    let x : Float32 := (1.0 + (4.0 - 1.0) * half - 7.0) * more
    let y : Float32 := (2.0 + (5.0 - 2.0) * half - 8.0) * more
    let alpha : Float := (3.0 + (6.0 - 3.0) * 0.5 - 9.0) * 1.5
    let x' : Float32 := x + (10.0 - x) * quarter
    let y' : Float32 := y + (11.0 - y) * quarter
    let alpha' : Float := alpha + (12.0 - alpha) * 0.25
    (spriteComponent 0).state spriteRun = ⟨x, (4.0 : Float32), x'⟩ ∧
      (spriteComponent 1).state spriteRun = ⟨y, (5.0 : Float32), y'⟩ ∧
      (spriteComponent 2).state spriteRun = ⟨alpha, (6.0 : Float), alpha'⟩ ∧
      Arithmetic.normSq spriteRun.inHand =
        x'.toFloat * x'.toFloat + y'.toFloat * y'.toFloat + alpha' * alpha' := by
  intro half more quarter x y alpha x' y' alpha'
  obtain ⟨-, hcomponent, -, hsquares, -⟩ := motion_by_components .sprite
    (spriteValue 1.0 2.0 3.0 1) (spriteValue 4.0 5.0 6.0 2)
    [.towards 0.5, .get, .subAssign (spriteData 7.0 8.0 9.0), .scale 1.5, .set,
      .lerp (spriteData 10.0 11.0 12.0) 0.25]
  have hx : (spriteComponent 0).state spriteRun = ⟨x, (4.0 : Float32), x'⟩ :=
    hcomponent (0 : Fin 3)
  have hy : (spriteComponent 1).state spriteRun = ⟨y, (5.0 : Float32), y'⟩ :=
    hcomponent (1 : Fin 3)
  have halpha : (spriteComponent 2).state spriteRun = ⟨alpha, (6.0 : Float), alpha'⟩ :=
    hcomponent (2 : Fin 3)
  -- one square for each of the three
  have hsum : Arithmetic.normSq spriteRun.inHand =
      Arithmetic.normSq ((spriteComponent 0).state spriteRun).inHand +
        Arithmetic.normSq ((spriteComponent 1).state spriteRun).inHand +
        Arithmetic.normSq ((spriteComponent 2).state spriteRun).inHand := hsquares
  refine ⟨hx, hy, halpha, ?_⟩
  rw [hsum, hx, hy, halpha]
  rfl

end Motion.Sample

end Tween
