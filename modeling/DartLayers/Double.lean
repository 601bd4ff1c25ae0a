/-!
# DartLayers — binary64 numbers

A fractional number of a payload is a binary64 number, kept as its bits so that it can be compared
and computed with in proofs. A decimal literal denotes the nearest such number, a tie going to the
one with the even significand; beyond the largest it is an infinity.

* **`nearestBits`** — the nearest magnitude to a positive quotient of naturals, in exact arithmetic.
* **`Double.ofDecimal`** — a decimal significand and exponent, read that way.
-/

namespace DartLayers

/-- A binary64 number by its bits. -/
structure Double where
  bits : UInt64
  deriving Repr, DecidableEq, Inhabited

/-! ## Rounding -/

/-- The bits of the positive infinity. -/
def infinityBits : Nat := 0x7FF0000000000000

/-- The bit of the sign. -/
def signBit : Nat := 0x8000000000000000

/-- The leading bit of a significand, which is not written; the exponent field starts there. -/
def leadingBit : Nat := 0x10000000000000

/-- The power of two with an exponent; one if the exponent is below zero. -/
def powerOfTwo (exponent : Int) : Nat := Nat.pow 2 exponent.toNat

/-- The power of ten with an exponent; one if the exponent is below zero. -/
def powerOfTen (exponent : Int) : Nat := Nat.pow 10 exponent.toNat

/-- `n / d` rounded to a natural number, ties to even. -/
def roundQuotient (n d : Nat) : Nat :=
  let below := n / d
  let twice := 2 * (n % d)
  if twice < d || (twice == d && below % 2 == 0) then below else below + 1

/-- The exponent of the last place of a binary64 number near `n / d`: the significand has 53 bits
unless the number is subnormal. -/
def lastPlace (n d : Nat) : Int :=
  let scale : Int := (n.log2 : Int) - d.log2
  let atLeast := n * powerOfTwo (-scale) ≥ d * powerOfTwo scale
  max (if atLeast then scale - 52 else scale - 53) (-1074)

/-- The bits of the magnitude nearest to `n / d`, for positive `n` and `d`. A significand of 53 bits
carries into the exponent field by itself. -/
def nearestBits (n d : Nat) : Nat :=
  let place := lastPlace n d
  let significand := roundQuotient (n * powerOfTwo (-place)) (d * powerOfTwo place)
  min ((place + 1074).toNat * leadingBit + significand) infinityBits

namespace Double

/-! ## Doubles -/

/-- The number with the given magnitude bits and sign. -/
def ofMagnitude (negative : Bool) (magnitude : Nat) : Double :=
  ⟨UInt64.ofNat (if negative then signBit + magnitude else magnitude)⟩

/-- Not a number. -/
def nan : Double := ⟨0x7FF8000000000000⟩

/-- An infinity. -/
def infinity (negative : Bool) : Double := ofMagnitude negative infinityBits

/-- The number nearest to `significand * 10 ^ exponent`. Exponents far outside the range of the
format are decided without computing the power. -/
def ofDecimal (negative : Bool) (significand : Nat) (exponent : Int) : Double :=
  if significand == 0 || exponent + significand.log2 + 1 < -400 then ofMagnitude negative 0
  else if exponent > 400 then infinity negative
  else
    ofMagnitude negative
      (nearestBits (significand * powerOfTen exponent) (powerOfTen (-exponent)))

/-- The magnitude bits. -/
def magnitude (x : Double) : Nat := x.bits.toNat % signBit

/-- The sign bit. -/
def isNegative (x : Double) : Bool := x.bits.toNat ≥ signBit

/-- Whether the number is not a number. -/
def isNaN (x : Double) : Bool := x.magnitude > infinityBits

/-- Whether the number is neither infinite nor not a number. -/
def isFinite (x : Double) : Bool := x.magnitude < infinityBits

/-- The number with the other sign. -/
def negate (x : Double) : Double :=
  if x.isNaN then x else ofMagnitude (!x.isNegative) x.magnitude

/-- A finite number as an odd or zero-free pair `significand * 2 ^ place`, without its sign. -/
def parts (x : Double) : Nat × Int :=
  let field := x.magnitude / leadingBit
  let low := x.magnitude % leadingBit
  if field == 0 then (low, -1074) else (low + leadingBit, Int.ofNat field - 1075)

/-- The whole number that a finite number equals, if it has no fraction. -/
def toInt? (x : Double) : Option Int :=
  if !x.isFinite then none
  else
    let (significand, place) := x.parts
    let sign : Int := if x.isNegative then -1 else 1
    let (n, d) := (significand * powerOfTwo place, powerOfTwo (-place))
    if n % d == 0 then some (sign * Int.ofNat (n / d)) else none

/-- The number that core's arithmetic works on. -/
def toFloat (x : Double) : Float := Float.ofBits x.bits

/-- The result of core's arithmetic. -/
def ofFloat (x : Float) : Double := ⟨x.toBits⟩

end Double

/-- Rounding is off by at most half of the divisor. -/
theorem roundQuotient_near {n d : Nat} (hd : 0 < d) :
    2 * n ≤ 2 * (d * roundQuotient n d) + d ∧ 2 * (d * roundQuotient n d) ≤ 2 * n + d := by
  have hsplit := Nat.div_add_mod n d
  have hmod := Nat.mod_lt n hd
  unfold roundQuotient
  simp only [Bool.or_eq_true, decide_eq_true_eq, Bool.and_eq_true, beq_iff_eq]
  split
  · rename_i h
    rcases h with h | ⟨h, -⟩ <;> constructor <;> omega
  · rename_i h
    rw [Nat.mul_add, Nat.mul_one]
    constructor <;> omega

example : (Double.ofDecimal false 1 (-1)).bits = 0x3FB999999999999A := by decide +kernel
example : (Double.ofDecimal false 5 (-324)).bits = 1 := by decide +kernel
example : (Double.ofDecimal true 17976931348623157 292).bits = 0xFFEFFFFFFFFFFFFF := by
  decide +kernel

end DartLayers
