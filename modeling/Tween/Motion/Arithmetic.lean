/-!
# Vector arithmetic

Values that can be added, subtracted and scaled, which is all that interpolation needs
(`Arithmetic`), and values whose animatable state can be read and written as one such vector
(`Animated`). Factors are of double precision whatever the components are.
-/

namespace Tween.Motion

/-- What a type has to provide. The compound forms `addAssign` and `subAssign` give the new value of
the vector on their left. -/
class Arithmetic (V : Type) where
  zero : V
  add : V → V → V
  sub : V → V → V
  addAssign : V → V → V
  subAssign : V → V → V
  /-- Every component times a factor. -/
  scale : V → Float → V
  /-- The sum of the squares of all components. -/
  normSq : V → Float
  /-- Equality of floating-point numbers in every component: a NaN differs from itself. -/
  same : V → V → Bool

namespace Arithmetic

variable {V : Type} [Arithmetic V]

/-- The scaled vector, as a value of its own. -/
def scaled (v : V) (t : Float) : V :=
  scale v t

/-- The vector a fraction `t` of the way to `target`. -/
def lerp (v target : V) (t : Float) : V :=
  add v (scaled (sub target v) t)

end Arithmetic

/-- A type with data that can be read off a value and written back to it. -/
class Animated (H : Type) where
  Data : Type
  arithmetic : Arithmetic Data
  data : H → Data
  /-- The host with new data, all else as it was. -/
  setData : H → Data → H

namespace Animated

variable {H : Type} [Animated H]

instance : Arithmetic (Data H) := arithmetic

/-- The host with its data moved a fraction `t` of the way to that of `target`. -/
def moveTowards (host target : H) (t : Float) : H :=
  setData host (Arithmetic.lerp (data host) (data target) t)

/-- A copy of `source` on its way to `target`. What is not animated stays as in `source`. -/
def between (source target : H) (t : Float) : H :=
  moveTowards source target t

end Animated

end Tween.Motion
