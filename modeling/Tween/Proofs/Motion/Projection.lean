import Mathlib.Data.List.OfFn
import Tween.Motion.Run

/-!
# Projections of motion

A projection takes hosts to hosts of another type and their data to data of that type, and respects
everything that a step may do. What it shows of a run is then a run itself, of the projected steps
(`Projection.run`): nothing it leaves out has any influence.

A number is a host that is its own data. Every component of a host is a projection to such a number
(`HostValue.component`), as the operations on data work component by component.
-/

namespace Tween.Motion

open Animated

/-! ## Steps and their data -/

/-- The step with other data in the place of those it carries. -/
def Step.map {D E : Type} (f : D → E) : Step D → Step E
  | .get => .get
  | .getTarget => .getTarget
  | .set => .set
  | .setTarget d => .setTarget (f d)
  | .new d => .new (f d)
  | .zero => .zero
  | .default => .default
  | .add d => .add (f d)
  | .sub d => .sub (f d)
  | .addAssign d => .addAssign (f d)
  | .subAssign d => .subAssign (f d)
  | .scale t => .scale t
  | .scaled t => .scaled t
  | .lerp d t => .lerp (f d) t
  | .magnitude => .magnitude
  | .same d => .same (f d)
  | .towards t => .towards t
  | .between t => .between t
  | .swap => .swap

/-! ## Operators that change a vector in place -/

/-- The compound forms give what the plain ones give. -/
structure Arithmetic.InPlace (V : Type) [Arithmetic V] : Prop where
  addAssign : ∀ v w : V, Arithmetic.addAssign v w = Arithmetic.add v w
  subAssign : ∀ v w : V, Arithmetic.subAssign v w = Arithmetic.sub v w

theorem Precision.inPlace (p : Precision) : Arithmetic.InPlace p.Carrier := by
  cases p <;> exact ⟨fun _ _ => rfl, fun _ _ => rfl⟩

/-! ## Projections -/

/-- A map of vectors that respects their arithmetic. -/
structure Arithmetic.Respects {V W : Type} [Arithmetic V] [Arithmetic W] [Inhabited V] [Inhabited W]
    (f : V → W) : Prop where
  zero : f Arithmetic.zero = Arithmetic.zero
  default : f default = default
  add : ∀ v w, f (Arithmetic.add v w) = Arithmetic.add (f v) (f w)
  sub : ∀ v w, f (Arithmetic.sub v w) = Arithmetic.sub (f v) (f w)
  addAssign : ∀ v w, f (Arithmetic.addAssign v w) = Arithmetic.addAssign (f v) (f w)
  subAssign : ∀ v w, f (Arithmetic.subAssign v w) = Arithmetic.subAssign (f v) (f w)
  scale : ∀ v t, f (Arithmetic.scale v t) = Arithmetic.scale (f v) t

namespace Arithmetic.Respects

variable {U V W : Type} [Arithmetic U] [Arithmetic V] [Arithmetic W]
  [Inhabited U] [Inhabited V] [Inhabited W]

theorem lerp {f : V → W} (h : Respects f) (v target : V) (t : Float) :
    f (Arithmetic.lerp v target t) = Arithmetic.lerp (f v) (f target) t := by
  simp only [Arithmetic.lerp, Arithmetic.scaled, h.add, h.sub, h.scale]

theorem comp {g : V → W} {f : U → V} (hg : Respects g) (hf : Respects f) :
    Respects fun u => g (f u) where
  zero := by rw [hf.zero, hg.zero]
  default := by rw [hf.default, hg.default]
  add v w := by rw [hf.add, hg.add]
  sub v w := by rw [hf.sub, hg.sub]
  addAssign v w := by rw [hf.addAssign, hg.addAssign]
  subAssign v w := by rw [hf.subAssign, hg.subAssign]
  scale v t := by rw [hf.scale, hg.scale]

end Arithmetic.Respects

/-- A projection of hosts and their data. -/
structure Projection (H K : Type) [Animated H] [Animated K] [Inhabited (Data H)]
    [Inhabited (Data K)] where
  host : H → K
  data : Data H → Data K
  respects : Arithmetic.Respects data
  data_host : ∀ h, Animated.data (host h) = data (Animated.data h)
  host_setData : ∀ h d, host (setData h d) = setData (host h) (data d)

namespace Projection

variable {H K : Type} [Animated H] [Animated K] [Inhabited (Data H)] [Inhabited (Data K)]
  (π : Projection H K)

/-- What the projection shows of a state. -/
def state (s : State H) : State K :=
  ⟨π.host s.host, π.host s.target, π.data s.inHand⟩

theorem state_start (host target : H) :
    π.state (.start host target) = .start (π.host host) (π.host target) := by
  simp only [state, State.start, π.data_host]

theorem host_moveTowards (h target : H) (t : Float) :
    π.host (moveTowards h target t) = moveTowards (π.host h) (π.host target) t := by
  simp only [moveTowards, π.host_setData, π.respects.lerp, π.data_host]

/-- A step shows as the step with its data projected. -/
theorem state_after (s : State H) (step : Step (Data H)) :
    π.state (s.after step) = (π.state s).after (step.map π.data) := by
  cases step with
  | get => simp only [state, State.after, Step.map, π.data_host]
  | getTarget => simp only [state, State.after, Step.map, π.data_host]
  | set => simp only [state, State.after, Step.map, π.host_setData]
  | setTarget d => simp only [state, State.after, Step.map, π.host_setData]
  | new d => rfl
  | zero => simp only [state, State.after, Step.map, π.respects.zero]
  | default => simp only [state, State.after, Step.map, π.respects.default]
  | add d => simp only [state, State.after, Step.map, π.respects.add]
  | sub d => simp only [state, State.after, Step.map, π.respects.sub]
  | addAssign d => simp only [state, State.after, Step.map, π.respects.addAssign]
  | subAssign d => simp only [state, State.after, Step.map, π.respects.subAssign]
  | scale t => simp only [state, State.after, Step.map, π.respects.scale]
  | scaled t => simp only [state, State.after, Step.map, Arithmetic.scaled, π.respects.scale]
  | lerp d t => simp only [state, State.after, Step.map, π.respects.lerp]
  | magnitude => rfl
  | same d => rfl
  | towards t => simp only [state, State.after, Step.map, π.host_moveTowards]
  | between t => simp only [state, State.after, Step.map, Animated.between, π.host_moveTowards]
  | swap => rfl

/-- **A run shows as a run** of the projected steps. -/
theorem state_run (s : State H) (steps : List (Step (Data H))) :
    π.state (s.run steps) = (π.state s).run (steps.map (Step.map π.data)) := by
  induction steps generalizing s with
  | nil => rfl
  | cons step steps ih =>
    have hrun : s.run (step :: steps) = (s.after step).run steps := rfl
    rw [hrun, ih, π.state_after]
    rfl

end Projection

/-! ## Components -/

/-- A number is a host that is its own data. -/
instance Precision.instAnimatedCarrier (p : Precision) : Animated p.Carrier where
  Data := p.Carrier
  arithmetic := inferInstance
  data x := x
  setData _ x := x

instance Precision.instInhabitedData (p : Precision) : Inhabited (Data p.Carrier) :=
  inferInstanceAs (Inhabited p.Carrier)

namespace Components

variable {ps : List Precision}

/-- The component at a position. -/
def get : {ps : List Precision} → Components ps → (i : Fin ps.length) → (ps.get i).Carrier
  | _ :: _, (x, _), ⟨0, _⟩ => x
  | _ :: _, (_, xs), ⟨i + 1, h⟩ => get xs ⟨i, Nat.lt_of_succ_lt_succ h⟩

theorem get_fill (value : (p : Precision) → p.Carrier) : ∀ {ps : List Precision}
    (i : Fin ps.length), (fill value ps).get i = value (ps.get i)
  | _ :: _, ⟨0, _⟩ => rfl
  | _ :: _, ⟨i + 1, h⟩ => get_fill value ⟨i, Nat.lt_of_succ_lt_succ h⟩

theorem get_map (f : (p : Precision) → p.Carrier → p.Carrier) : ∀ {ps : List Precision}
    (v : Components ps) (i : Fin ps.length), (map f v).get i = f (ps.get i) (v.get i)
  | _ :: _, (_, _), ⟨0, _⟩ => rfl
  | _ :: _, (_, xs), ⟨i + 1, h⟩ => get_map f xs ⟨i, Nat.lt_of_succ_lt_succ h⟩

theorem get_zipWith (f : (p : Precision) → p.Carrier → p.Carrier → p.Carrier) :
    ∀ {ps : List Precision} (v w : Components ps) (i : Fin ps.length),
      (zipWith f v w).get i = f (ps.get i) (v.get i) (w.get i)
  | _ :: _, (_, _), (_, _), ⟨0, _⟩ => rfl
  | _ :: _, (_, xs), (_, ys), ⟨i + 1, h⟩ => get_zipWith f xs ys ⟨i, Nat.lt_of_succ_lt_succ h⟩

/-- The operations on components work at every position as those on the number there. -/
theorem respects_get (i : Fin ps.length) :
    Arithmetic.Respects fun v : Components ps => v.get i where
  zero := get_fill _ i
  default := get_fill _ i
  add v w := get_zipWith _ v w i
  sub v w := get_zipWith _ v w i
  addAssign v w := get_zipWith _ v w i
  subAssign v w := get_zipWith _ v w i
  scale v _ := get_map _ v i

/-- The squares of the components are those of the numbers at the positions, in their order. -/
theorem squares_eq_ofFn : ∀ {ps : List Precision} (v : Components ps),
    squares v = List.ofFn fun i => Arithmetic.normSq (v.get i)
  | [], _ => rfl
  | _ :: ps, (x, xs) => by
    have hrest : squares xs = List.ofFn fun i : Fin ps.length => Arithmetic.normSq (xs.get i) :=
      squares_eq_ofFn xs
    rw [squares, hrest, List.ofFn_succ]
    rfl

theorem zipWith_congr {f g : (p : Precision) → p.Carrier → p.Carrier → p.Carrier}
    (h : ∀ p x y, f p x y = g p x y) : ∀ {ps : List Precision} (v w : Components ps),
      zipWith f v w = zipWith g v w
  | [], _, _ => rfl
  | p :: _, (x, xs), (y, ys) => congrArg₂ Prod.mk (h p x y) (zipWith_congr h xs ys)

theorem inPlace : Arithmetic.InPlace (Components ps) where
  addAssign := zipWith_congr fun p => p.inPlace.addAssign
  subAssign := zipWith_congr fun p => p.inPlace.subAssign

end Components

namespace HostData

/-- The data of a host have the arithmetic of their components, be it one or several. -/
theorem respects_components : ∀ {ps : List Precision},
    Arithmetic.Respects fun d : HostData ps => d.components
  | [] | [_] | _ :: _ :: _ =>
    ⟨rfl, rfl, fun _ _ => rfl, fun _ _ => rfl, fun _ _ => rfl, fun _ _ => rfl, fun _ _ => rfl⟩

theorem inPlace : (ps : List Precision) → Arithmetic.InPlace (HostData ps)
  | [] => Components.inPlace
  | [p] => p.inPlace
  | _ :: _ :: _ => Components.inPlace

/-- The squared magnitude is the sum of those of the components, in their order. -/
theorem normSq_eq_sum {ps : List Precision} (d : HostData ps) :
    Arithmetic.normSq d =
      Components.sum (List.ofFn fun i => Arithmetic.normSq (d.components.get i)) := by
  have hsquares : Arithmetic.normSq d = Components.sum d.components.squares :=
    match ps, d with
    | [], _ => rfl
    | [_], _ => rfl
    | _ :: _ :: _, _ => rfl
  rw [hsquares, Components.squares_eq_ofFn]

end HostData

namespace HostValue

variable {slots : List Slot}

/-- The animated slot at a position, as a number. -/
def component (i : Fin (Slot.precisions slots).length) :
    Projection (HostValue slots) ((Slot.precisions slots).get i).Carrier where
  host h := h.parts.get i
  data d := (@HostData.components (Slot.precisions slots) d).get i
  respects := (Components.respects_get i).comp HostData.respects_components
  data_host h := congrArg (Components.get · i) (HostData.components_ofComponents h.parts).symm
  host_setData h d := congrArg (Components.get · i) (parts_setParts h (HostData.components d))

/-- The animated slot at a position, as a host of its own whose ignored slot holds `word`. -/
def lone (i : Fin (Slot.precisions slots).length) (word : UInt32) :
    Projection (HostValue slots)
      (HostValue [.animated ((Slot.precisions slots).get i), .ignored]) where
  host h := ((component i).host h, word, ())
  data d := (component i).data d
  respects := (component i).respects
  data_host h := (component i).data_host h
  host_setData h d := congrArg (·, word, ()) ((component i).host_setData h d)

end HostValue

end Tween.Motion
