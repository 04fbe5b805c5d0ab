import Tween.Proofs.Motion.Samples

/-!
# What motion leaves alone

The data of a host are a lens on it: reading and writing obey the laws of one
(`HostValue.data_setData` and its siblings). Anything that writing data does not reach stays as it
is through a run, except that it changes places when host and target do (`State.observe_run`). A run
without such an exchange writes to the target in the steps that say so, and never else
(`State.target_run`).
-/

namespace Tween.Motion

open Animated

/-! ## Runs -/

/-- The step lets host and target change places. -/
def Step.isSwap {D : Type} : Step D → Bool
  | .swap => true
  | _ => false

/-- The data the step writes to the target. -/
def Step.targetData? {D : Type} : Step D → Option D
  | .setTarget d => some d
  | _ => none

namespace State

variable {H α : Type} [Animated H] [Inhabited (Data H)]

/-- What shows of host and target. -/
def observe (f : H → α) (s : State H) : α × α :=
  (f s.host, f s.target)

section
variable {f : H → α} (hf : ∀ h d, f (setData h d) = f h)
include hf

theorem observe_after (s : State H) (step : Step (Data H)) :
    (s.after step).observe f = if step.isSwap then (s.observe f).swap else s.observe f := by
  cases step with
  | set => exact congrArg (·, f s.target) (hf s.host s.inHand)
  | setTarget d => exact congrArg (f s.host, ·) (hf s.target d)
  | towards t => exact congrArg (·, f s.target) (hf s.host _)
  | between t => exact congrArg (·, f s.target) (hf s.host _)
  | _ => rfl

/-- **What data do not reach** stays as it is, and changes places when host and target do. -/
theorem observe_run (s : State H) (steps : List (Step (Data H))) :
    (s.run steps).observe f = Prod.swap^[steps.countP Step.isSwap] (s.observe f) := by
  induction steps generalizing s with
  | nil => rfl
  | cons step steps ih =>
    have hrun : s.run (step :: steps) = (s.after step).run steps := rfl
    rw [hrun, ih, observe_after hf, List.countP_cons]
    cases step.isSwap with
    | false => rfl
    | true => rw [if_pos rfl, if_pos rfl, Function.iterate_succ_apply]

end

theorem target_after (s : State H) {step : Step (Data H)} (h : step.isSwap = false) :
    (s.after step).target = step.targetData?.toList.foldl setData s.target := by
  cases step with
  | swap => cases h
  | _ => rfl

/-- **The target is written to** by the steps that say so, in their order. -/
theorem target_run (s : State H) {steps : List (Step (Data H))}
    (h : ∀ step ∈ steps, step.isSwap = false) :
    (s.run steps).target = (steps.filterMap Step.targetData?).foldl setData s.target := by
  induction steps generalizing s with
  | nil => rfl
  | cons step steps ih =>
    obtain ⟨hstep, hsteps⟩ := List.forall_mem_cons.1 h
    have hrun : s.run (step :: steps) = (s.after step).run steps := rfl
    rw [hrun, ih _ hsteps, s.target_after hstep, List.filterMap_cons]
    cases step.targetData? <;> rfl

end State

/-! ## The lens -/

namespace HostValue

variable {slots : List Slot} (h : HostValue slots) (v w : Data (HostValue slots))

theorem data_setData : data (setData h v) = v :=
  (congrArg HostData.ofComponents (h.parts_setParts (HostData.components v))).trans
    (HostData.ofComponents_components v)

theorem setData_data : setData h (data h) = h :=
  (congrArg h.setParts (HostData.components_ofComponents h.parts)).trans h.setParts_parts

theorem setData_setData : setData (setData h v) w = setData h w :=
  h.setParts_setParts (HostData.components v) (HostData.components w)

theorem ignored_setData : (setData h v).ignored = h.ignored :=
  h.ignored_setParts (HostData.components v)

end HostValue

/-- The accessor that is generated behind a host. -/
theorem Generated.exists_accessor {names : List String} {slots : List Slot} {code : TokenStream}
    (h : Generated names slots code) :
    ∃ (accessor : AccessorCode) (type : TokenStream) (types : Table Precision),
      accessor.code <:+ code ∧ accessor.Implements type types names slots := by
  cases h with
  | scalar _ haccessor => exact ⟨_, _, _, List.suffix_rfl, haccessor⟩
  | vector _ haccessor => exact ⟨_, _, _, List.suffix_append _ _, haccessor⟩

/-- **Reading and writing data is lawful, and motion touches nothing else.** The accessor that is
generated for a sample reads and writes its data, by the laws of a lens. In any run the ignored
fields of host and target change places as often as the two do, and are never written; without such
an exchange both keep theirs, and the target is written to by the steps that say so alone. A copy on
its way to a target has the ignored fields of its source and the interpolated data, as a host that
is moved there. -/
theorem Sample.data_lens_frame (sample : Sample) :
    (∃ code accessor type types, attributeOutput sample.arguments sample.item =
        .ok (TokenStream.removeAttribute "animatable" sample.item ++ code) ∧
      accessor.code <:+ code ∧
      AccessorCode.Implements accessor type types sample.fieldNames sample.slots) ∧
    (∀ (h : HostValue sample.slots) (v w : Data (HostValue sample.slots)),
      data (setData h v) = v ∧ setData h (data h) = h ∧ setData (setData h v) w = setData h w) ∧
    (∀ (s : State (HostValue sample.slots)) (steps : List (Step (Data (HostValue sample.slots)))),
      ((s.run steps).host.ignored, (s.run steps).target.ignored) =
          Prod.swap^[steps.countP Step.isSwap] (s.host.ignored, s.target.ignored) ∧
      ((∀ step ∈ steps, step.isSwap = false) →
        (s.run steps).host.ignored = s.host.ignored ∧
        (s.run steps).target.ignored = s.target.ignored ∧
        (s.run steps).target = (steps.filterMap Step.targetData?).foldl setData s.target)) ∧
    ∀ (source target : HostValue sample.slots) (t : Float),
      (between source target t).ignored = source.ignored ∧
      data (between source target t) = Arithmetic.lerp (data source) (data target) t ∧
      between source target t = moveTowards source target t := by
  refine ⟨?code, fun h v w => ?lens, fun s steps => ⟨?tags, fun hsteps => ?still⟩,
    fun source target t => ?copy⟩
  case code =>
    obtain ⟨accessor, type, types, hsuffix, haccessor⟩ :=
      sample.generated_tokens.exists_accessor
    exact ⟨_, accessor, type, types, sample.attributeOutput_eq, hsuffix, haccessor⟩
  case lens => exact ⟨h.data_setData v, h.setData_data, h.setData_setData v w⟩
  case tags => exact State.observe_run HostValue.ignored_setData s steps
  case still =>
    have htags := State.observe_run HostValue.ignored_setData s steps
    have hcount : steps.countP Step.isSwap = 0 := by
      rw [List.countP_eq_zero]
      intro step hstep
      simp [hsteps step hstep]
    rw [hcount] at htags
    exact ⟨congrArg Prod.fst htags, congrArg Prod.snd htags, s.target_run hsteps⟩
  case copy =>
    exact ⟨source.ignored_setData _, source.data_setData _, rfl⟩

/-- A value of the first sample. -/
def circle (radius offset : Float) (tag : UInt32) : HostValue Sample.circle.slots :=
  (radius, offset, tag, ())

/-- A circle moves towards another one, which is written to on the way. -/
theorem data_lens_frame_circle :
    (∀ step ∈ [Step.towards 0.5, .setTarget (data (circle 8.0 9.0 7)), .between 0.25],
      step.isSwap = false) ∧
    ∃ s : State (HostValue Sample.circle.slots),
      s = (State.start (circle 1.0 2.0 1) (circle 3.0 4.0 2)).run
        [.towards 0.5, .setTarget (data (circle 8.0 9.0 7)), .between 0.25] ∧
      s.host.ignored = [1] ∧ s.target = circle 8.0 9.0 2 := by
  have hsteps : ∀ step ∈ [Step.towards 0.5, .setTarget (data (circle 8.0 9.0 7)), .between 0.25],
      step.isSwap = false := by simp [Step.isSwap]
  obtain ⟨-, -, hrun, -⟩ := Sample.data_lens_frame .circle
  obtain ⟨hhost, -, htarget⟩ :=
    (hrun (.start (circle 1.0 2.0 1) (circle 3.0 4.0 2)) _).2 hsteps
  exact ⟨hsteps, _, rfl, hhost, htarget⟩

/-- When host and target change places, the host has the tag that was the target's. -/
theorem ignored_run_swap_circle :
    ((State.start (circle 1.0 2.0 1) (circle 1.0 2.0 2)).run [.swap]).host.ignored ≠
      (circle 1.0 2.0 1).ignored := by
  decide

end Tween.Motion
