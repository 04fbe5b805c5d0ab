import Tween.Motion.Arithmetic

/-!
# Floating-point numbers as vectors

A number of either precision is a vector of one component. A factor is first brought to the
precision of the number it scales, and a number is widened before it is squared.
-/

namespace Tween.Motion

/-- The two formats of floating-point numbers. -/
inductive Precision where
  | single
  | double
  deriving DecidableEq

namespace Precision

/-- The numbers of a format. -/
def Carrier : Precision → Type
  | single => Float32
  | double => Float

instance instArithmeticCarrier : (p : Precision) → Arithmetic p.Carrier
  | single =>
    { zero := (0.0 : Float32)
      add := fun (x y : Float32) => x + y
      sub := fun (x y : Float32) => x - y
      addAssign := fun (x y : Float32) => x + y
      subAssign := fun (x y : Float32) => x - y
      scale := fun (x : Float32) t => x * t.toFloat32
      normSq := fun (x : Float32) => x.toFloat * x.toFloat
      same := fun (x y : Float32) => x == y }
  | double =>
    { zero := (0.0 : Float)
      add := fun (x y : Float) => x + y
      sub := fun (x y : Float) => x - y
      addAssign := fun (x y : Float) => x + y
      subAssign := fun (x y : Float) => x - y
      scale := fun (x : Float) t => x * t
      normSq := fun (x : Float) => x * x
      same := fun (x y : Float) => x == y }

instance instInhabitedCarrier : (p : Precision) → Inhabited p.Carrier
  | single => ⟨(0.0 : Float32)⟩
  | double => ⟨(0.0 : Float)⟩

end Precision

end Tween.Motion
