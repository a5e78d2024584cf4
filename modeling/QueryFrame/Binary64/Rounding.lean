import QueryFrame.Binary64

/-!
# Rounding to 64-bit floating point

The word nearest to a rational, ties going to the even significand, with gradual underflow and
overflow to infinity. Each arithmetic operation is the exact one on the values, rounded once.
-/

namespace QueryFrame.Binary64

/-- The integer nearest to `num / den`; a tie goes to the even neighbour. -/
def divideToEven (num den : Nat) : Nat :=
  let quotient := num / den
  let remainder := num % den
  if 2 * remainder < den then quotient
  else if den < 2 * remainder then quotient + 1
  else quotient + quotient % 2

/-- The exponent of the last of the 53 places of `num / den`, and never below the one of
subnormal numbers. The bit lengths give it up to one. -/
def lastPlace (num den : Nat) : Int :=
  let guess : Int := num.log2 - den.log2 - 52
  let fits := den <<< (52 + guess.toNat) ≤ num <<< (-guess).toNat
  max (if fits then guess else guess - 1) (-1074)

/-- The word of least distance to `num / den`. The places of the significand are added to the
exponent field, so that a significand rounded up to the next power of two carries into it. -/
def ofRatio (num den : Nat) : Binary64 :=
  if num = 0 then zero
  else
    let e := lastPlace num den
    let places := divideToEven (num <<< (-e).toNat) (den <<< e.toNat)
    ⟨.ofNat (min ((e + 1074).toNat <<< 52 + places) infinityBits)⟩

/-- The word nearest to a rational; zero is the positive one. -/
def nearest (q : Rat) : Binary64 :=
  let rounded := ofRatio q.num.natAbs q.den
  if q.num < 0 then rounded.neg else rounded

def add (x y : Binary64) : Binary64 := nearest (x.value + y.value)

def mul (x y : Binary64) : Binary64 := nearest (x.value * y.value)

/-- The quotient of two finite words, the second not zero. -/
def div (x y : Binary64) : Binary64 := nearest (x.value / y.value)

/-- The nearest integer to a finite word that is not negative; a half goes up. -/
def roundHalfUp (x : Binary64) : Binary64 := nearest (x.value + 1 / 2).floor

def powerOfTen (k : Nat) : Binary64 := nearest (Nat.pow 10 k)

end QueryFrame.Binary64
