import Tween.Motion.Host

/-!
# Runs of motion

A run takes a host, a target of the same type and a vector in hand through a sequence of steps, each
of them one operation on vectors or on hosts. Steps that ask a question about the vector in hand
answer it and change nothing.
-/

namespace Tween.Motion

open Arithmetic Animated

/-- One step; `D` is the type of the data. -/
inductive Step (D : Type) where
  /-- Take the data of the host in hand. -/
  | get
  /-- Take the data of the target in hand. -/
  | getTarget
  /-- Write the vector in hand to the host. -/
  | set
  /-- Write data to the target. -/
  | setTarget (data : D)
  /-- Take a new vector in hand. -/
  | new (data : D)
  /-- Take the zero of the arithmetic in hand. -/
  | zero
  /-- Take the default vector in hand. -/
  | default
  | add (data : D)
  | sub (data : D)
  | addAssign (data : D)
  | subAssign (data : D)
  | scale (t : Float)
  | scaled (t : Float)
  | lerp (target : D) (t : Float)
  | magnitude
  | same (data : D)
  /-- Move the host towards the target. -/
  | towards (t : Float)
  /-- Replace the host by a copy on its way to the target. -/
  | between (t : Float)
  /-- Let host and target change places. -/
  | swap

/-- Where a run stands. -/
structure State (H : Type) [Animated H] where
  host : H
  target : H
  inHand : Data H

/-- The answer to a question. -/
inductive Answer where
  | magnitude (value : Float)
  | same (value : Bool)

variable {H : Type} [Animated H] [Inhabited (Data H)]

/-- The state a run begins in, with the host's data in hand. -/
def State.start (host target : H) : State H :=
  ⟨host, target, data host⟩

/-- The state after a step. -/
def State.after (s : State H) : Step (Data H) → State H
  | .get => { s with inHand := data s.host }
  | .getTarget => { s with inHand := data s.target }
  | .set => { s with host := setData s.host s.inHand }
  | .setTarget d => { s with target := setData s.target d }
  | .new d => { s with inHand := d }
  | .zero => { s with inHand := Arithmetic.zero }
  | .default => { s with inHand := Inhabited.default }
  | .add d => { s with inHand := Arithmetic.add s.inHand d }
  | .sub d => { s with inHand := Arithmetic.sub s.inHand d }
  | .addAssign d => { s with inHand := Arithmetic.addAssign s.inHand d }
  | .subAssign d => { s with inHand := Arithmetic.subAssign s.inHand d }
  | .scale t => { s with inHand := Arithmetic.scale s.inHand t }
  | .scaled t => { s with inHand := Arithmetic.scaled s.inHand t }
  | .lerp d t => { s with inHand := Arithmetic.lerp s.inHand d t }
  | .magnitude | .same _ => s
  | .towards t => { s with host := moveTowards s.host s.target t }
  | .between t => { s with host := Animated.between s.host s.target t }
  | .swap => { s with host := s.target, target := s.host }

/-- The answer a step gives, if it asks a question. -/
def State.answer? (s : State H) : Step (Data H) → Option Answer
  | .magnitude => some (.magnitude (normSq s.inHand))
  | .same d => some (.same (Arithmetic.same s.inHand d))
  | _ => none

/-- The state after several steps. -/
def State.run (s : State H) (steps : List (Step (Data H))) : State H :=
  steps.foldl State.after s

/-- The states after each of the steps, with the answers given on the way. -/
def State.trace (s : State H) : List (Step (Data H)) → List (State H × Option Answer)
  | [] => []
  | step :: steps => (s.after step, s.answer? step) :: (s.after step).trace steps

end Tween.Motion
