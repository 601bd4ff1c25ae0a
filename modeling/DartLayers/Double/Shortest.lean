import DartLayers.Double

/-!
# DartLayers — the shortest decimal text of a number

A number is shown with the fewest digits that read back as it; of two such decimals the nearer one.
From 0.0001 up to 10^16 the text is positional and keeps a digit after the point; outside, it has an
exponent of at least two digits.
-/

namespace DartLayers.Double

/-- A decimal: `digits * 10 ^ exponent`. -/
structure Decimal where
  digits : Nat
  exponent : Int
  deriving Repr, DecidableEq

/-- The magnitude of a finite number as a quotient of naturals. -/
def quotient (x : Double) : Nat × Nat :=
  let (significand, place) := x.parts
  (significand * powerOfTwo place, powerOfTwo (-place))

/-- The place of the leading decimal digit of `n / d`: zero for a number from 0.1 up to 1. -/
def leadingPlace (n d : Nat) : Int :=
  if n ≥ d then ((Nat.toDigits 10 (n / d)).length : Int)
  else
    let reaches (shift : Nat) : Bool := n * powerOfTen (Int.ofNat shift) ≥ d
    1 - Int.ofNat (((List.range 330).find? reaches).getD 330)

/-- The two neighbours of `n / d` on the grid of multiples of `10 ^ exponent`, the nearer first. -/
def neighbours (n d : Nat) (exponent : Int) : List Decimal :=
  let scaled := (n * powerOfTen (-exponent), d * powerOfTen exponent)
  let below := scaled.1 / scaled.2
  let twice := 2 * (scaled.1 % scaled.2)
  if twice < scaled.2 || (twice == scaled.2 && below % 2 == 0) then
    [⟨below, exponent⟩, ⟨below + 1, exponent⟩]
  else
    [⟨below + 1, exponent⟩, ⟨below, exponent⟩]

/-- A decimal without zeros at the end of its digits; `bound` limits how many are dropped. -/
def Decimal.dropZeros : (bound : Nat) → Decimal → Decimal
  | 0, decimal => decimal
  | bound + 1, decimal =>
    if decimal.digits % 10 == 0 && decimal.digits != 0 then
      dropZeros bound ⟨decimal.digits / 10, decimal.exponent + 1⟩
    else decimal

/-- The shortest decimal that reads back as the magnitude of a finite number. Seventeen digits are
always enough. -/
def shortest (x : Double) : Decimal :=
  let (n, d) := x.quotient
  let magnitude := ofMagnitude false x.magnitude
  let candidates := (List.range 17).flatMap fun count =>
    neighbours n d (leadingPlace n d - Int.ofNat (count + 1))
  ((candidates.find? fun decimal =>
    ofDecimal false decimal.digits decimal.exponent == magnitude).getD ⟨0, 0⟩).dropZeros 20

/-- Digits with the point after the first `point` of them, by position. -/
def positional (digits : List Char) (point : Int) : List Char :=
  if point ≤ 0 then '0' :: '.' :: List.replicate (-point).toNat '0' ++ digits
  else if point ≥ digits.length then
    digits ++ List.replicate (point.toNat - digits.length) '0' ++ ['.', '0']
  else digits.take point.toNat ++ '.' :: digits.drop point.toNat

/-- Digits with the point after the first one and an exponent. -/
def scientific (digits : List Char) (exponent : Int) : List Char :=
  let places := Nat.toDigits 10 exponent.natAbs
  let fraction := match digits.drop 1 with
    | [] => []
    | rest => '.' :: rest
  digits.take 1 ++ fraction ++ ['e', if exponent < 0 then '-' else '+'] ++
    List.replicate (2 - places.length) '0' ++ places

/-- The text of a magnitude. -/
def magnitudeText (x : Double) : List Char :=
  let decimal := x.shortest
  let digits := Nat.toDigits 10 decimal.digits
  let point := decimal.exponent + digits.length
  if x.magnitude == 0 then ['0', '.', '0']
  else if -4 < point && point ≤ 16 then positional digits point
  else scientific digits (point - 1)

/-- The text of a number. -/
def text (x : Double) : String :=
  if x.isNaN then "nan"
  else
    let sign := if x.isNegative then ['-'] else []
    String.ofList (sign ++ if x.isFinite then x.magnitudeText else "inf".toList)

end DartLayers.Double
