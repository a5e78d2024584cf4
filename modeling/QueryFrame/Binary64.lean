/-!
# Binary floating-point words

Numbers of the binary interchange formats, kept as their bit patterns, so that the sign of a
zero and the payload of a NaN stay what they were. A finite 64-bit word stands for an exact
rational, `significand * 2 ^ exponent` with the sign of its top bit.
-/

namespace QueryFrame

structure Binary32 where
  bits : UInt32
  deriving DecidableEq, Repr

structure Binary64 where
  bits : UInt64
  deriving DecidableEq, Repr

namespace Binary32

def zero : Binary32 := ⟨0⟩

end Binary32

namespace Binary64

def zero : Binary64 := ⟨0⟩

/-- The bits of positive infinity: the first word above every finite magnitude. -/
def infinityBits : Nat := 2047 <<< 52

def magnitudeBits (x : Binary64) : Nat := x.bits.toNat % (1 <<< 63)

def isNegative (x : Binary64) : Bool := decide (1 <<< 63 ≤ x.bits.toNat)

def isFinite (x : Binary64) : Bool := decide (x.magnitudeBits < infinityBits)

def isZero (x : Binary64) : Bool := x.magnitudeBits == 0

/-- The biased exponent; zero for zeros and subnormal numbers. -/
def field (x : Binary64) : Nat := x.magnitudeBits >>> 52

/-- The significand as an integer, with the leading bit of a normal number. -/
def significand (x : Binary64) : Nat :=
  x.magnitudeBits % (1 <<< 52) + if x.field = 0 then 0 else 1 <<< 52

/-- The exponent of the last place of the significand. -/
def exponent (x : Binary64) : Int := (max x.field 1 : Nat) - 1075

def magnitude (x : Binary64) : Rat := x.significand * (2 : Rat) ^ x.exponent

/-- The value of a finite word; both zeros have value zero. -/
def value (x : Binary64) : Rat := if x.isNegative then -x.magnitude else x.magnitude

def neg (x : Binary64) : Binary64 := ⟨x.bits ^^^ 0x8000000000000000⟩

end Binary64

end QueryFrame
