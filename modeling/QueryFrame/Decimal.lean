import QueryFrame.Binary64.Rounding

/-!
# Decimal numbers

Fixed-point decimals of up to 96 bits with up to 28 places behind the point and a sign that a
zero has too, and the 64-bit floating-point number each one is turned into.
-/

namespace QueryFrame

/-- The decimal number `magnitude / 10 ^ scale` with a sign. -/
structure Decimal where
  negative : Bool
  magnitude : Nat
  scale : Nat
  magnitude_lt : magnitude < 1 <<< 96
  scale_le : scale ≤ 28
  deriving DecidableEq, Repr

namespace Decimal

def value (d : Decimal) : Rat :=
  let absolute : Rat := d.magnitude / Nat.pow 10 d.scale
  if d.negative then -absolute else absolute

/-- The floating-point number of a magnitude with places behind the point. The parts before and
behind the point are rounded each for itself and added, and the sum is rounded once more to the
decimal places that it stands for. A number without a fraction keeps its rounded whole part. -/
def joinParts (magnitude scale : Nat) : Binary64 :=
  let unit := Nat.pow 10 scale
  let power := Binary64.nearest unit
  let whole := Binary64.nearest (magnitude / unit : Nat)
  let fraction := (Binary64.nearest (magnitude % unit : Nat)).div power
  if fraction.isZero then whole
  else ((whole.add fraction).mul power).roundHalfUp.div power

/-- The floating-point number of a decimal. A negative zero keeps its sign only behind a point. -/
def toBinary64 (d : Decimal) : Binary64 :=
  if d.scale = 0 then .nearest (if d.negative then -(d.magnitude : Rat) else d.magnitude)
  else if d.negative then (joinParts d.magnitude d.scale).neg
  else joinParts d.magnitude d.scale

end Decimal

end QueryFrame
