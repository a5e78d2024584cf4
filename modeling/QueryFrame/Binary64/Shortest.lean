import QueryFrame.Binary64

/-!
# Shortest decimal text

The decimal text of a finite word: the fewest digits that still round to the word, among those
the ones nearest to it. The point is written in place while the number has at most sixteen
places before it and at most four zeros behind it; other numbers get an exponent, always with
its sign.
-/

namespace QueryFrame.Binary64

/-- A positive decimal number, `digits * 10 ^ exponent`. -/
structure Digits where
  digits : Nat
  exponent : Int
  deriving DecidableEq, Repr

/-- The same number without trailing zeros. The bound limits the zeros taken off. -/
def Digits.strip : Nat → Digits → Digits
  | bound + 1, ⟨digits, exponent⟩ =>
    if digits % 10 = 0 then strip bound ⟨digits / 10, exponent + 1⟩ else ⟨digits, exponent⟩
  | 0, d => d

/-- Whether a positive rational rounds to the magnitude of a word: it lies between the midpoints
to the neighbours, which themselves go to an even significand. The neighbour below a power of
two is half as far away. -/
def attracts (x : Binary64) (q : Rat) : Bool :=
  let unit : Rat := (2 : Rat) ^ x.exponent
  let below := if x.significand = 1 <<< 52 ∧ 1 < x.field then unit / 4 else unit / 2
  let low := x.magnitude - below
  let high := x.magnitude + unit / 2
  if x.significand % 2 = 0 then low ≤ q && q ≤ high else low < q && q < high

/-- The place of the leading decimal digit of a positive magnitude. Every magnitude times
`10 ^ 400` has a digit before the point, so that its length tells the place. -/
def leadingPlace (x : Binary64) : Int :=
  ((x.magnitude * (10 : Rat) ^ (400 : Int)).floor.toNat.repr.length : Int) - 401

/-- The number of `count` digits that rounds to the word, if there is one: of the two neighbours
on this grid the nearer, the even one in a tie. -/
def onGrid? (x : Binary64) (count : Nat) : Option Digits :=
  let exponent := x.leadingPlace + 1 - count
  let unit : Rat := (10 : Rat) ^ exponent
  let scaled := x.magnitude / unit
  let low := scaled.floor.toNat
  match x.attracts (low * unit), x.attracts ((low + 1 : Nat) * unit) with
  | true, true =>
    let gap := scaled - low
    if gap < 1 / 2 ∨ (gap = 1 / 2 ∧ low % 2 = 0) then some ⟨low, exponent⟩
    else some ⟨low + 1, exponent⟩
  | true, false => some ⟨low, exponent⟩
  | false, true => some ⟨low + 1, exponent⟩
  | false, false => none

/-- The fewest digits that round to a finite word other than zero. Seventeen always do. -/
def shortest (x : Binary64) : Digits :=
  (((List.range 17).findSome? fun n => x.onGrid? (n + 1)).getD ⟨0, 0⟩).strip 17

def exponentText (e : Int) : List Char :=
  (if e < 0 then '-' else '+') :: e.natAbs.repr.toList

def Digits.text (d : Digits) : List Char :=
  let places := d.digits.repr.toList
  let zeros (n : Int) : List Char := .replicate n.toNat '0'
  let point : Int := places.length + d.exponent
  if 0 ≤ d.exponent ∧ point ≤ 16 then places ++ zeros d.exponent ++ ['.', '0']
  else if 0 < point ∧ point ≤ 16 then
    places.take point.toNat ++ ['.'] ++ places.drop point.toNat
  else if -5 < point ∧ point ≤ 0 then ['0', '.'] ++ zeros (-point) ++ places
  else
    places.take 1 ++ (if places.length = 1 then [] else '.' :: places.drop 1) ++
      'e' :: exponentText (point - 1)

def text (x : Binary64) : String :=
  let magnitude := if x.isZero then ['0', '.', '0'] else x.shortest.text
  .ofList (if x.isNegative then '-' :: magnitude else magnitude)

end QueryFrame.Binary64
