/-! # Binary numbers of 53 digits

A finite number of the usual double format is a sign, a whole mantissa below `2 ^ 53` and a power of
two. `Binary.round` takes a quotient of natural numbers to the nearest such number, a tie to the even
mantissa; products and quotients are rounded from their exact value. -/

namespace BundleFinish

/-- A finite number: `mantissa * 2 ^ exponent`, negated where `negative` says so. -/
structure Binary where
  negative : Bool
  mantissa : Nat
  exponent : Int
  deriving DecidableEq, Repr

namespace Binary

/-- Zero. -/
def zero : Binary := ⟨false, 0, 0⟩

/-- The binary digits of a mantissa. -/
def precision : Nat := 53

/-- The least exponent of two. -/
def leastExponent : Int := -1074

/-- Numbers from two to this power on are out of range. -/
def bound : Nat := 1024

/-- A fraction scaled by a power of two, as numerator and denominator. -/
def scale (num den : Nat) (power : Int) : Nat × Nat :=
  if 0 ≤ power then (num * Nat.pow 2 power.toNat, den)
  else (num, den * Nat.pow 2 (-power).toNat)

/-- A quotient rounded to a whole number, a tie to the even one. -/
def roundQuotient (num den : Nat) : Nat :=
  let quotient := num / den
  let twice := 2 * (num % den)
  if twice < den then quotient
  else if den < twice then quotient + 1
  else quotient + quotient % 2

/-- The exponent of two with which a quotient has a mantissa of full length, or the least one. -/
def exponentFor (num den : Nat) : Int :=
  let guess : Int := (num.log2 : Int) - den.log2 - precision + 1
  let (n, d) := scale num den (-guess)
  max leastExponent (if n / d < Nat.pow 2 (precision - 1) then guess - 1 else guess)

/-- The number nearest to a quotient, none when it is out of range. -/
def round? (negative : Bool) (num den : Nat) : Option Binary :=
  if num = 0 then some ⟨negative, 0, 0⟩
  else
    let exponent := exponentFor num den
    let (n, d) := scale num den (-exponent)
    let mantissa := roundQuotient n d
    if (bound : Int) < exponent + precision ∨
        ((bound : Int) = exponent + precision ∧ Nat.pow 2 precision ≤ mantissa) then none
    else some ⟨negative, mantissa, exponent⟩

/-- The absolute value as numerator and denominator. -/
def ratio (x : Binary) : Nat × Nat := scale x.mantissa 1 x.exponent

/-- The product, rounded; none when it is out of range. -/
def mul? (x y : Binary) : Option Binary :=
  let (a, b) := x.ratio
  let (c, d) := y.ratio
  round? (x.negative != y.negative) (a * c) (b * d)

/-- The quotient, rounded; none when it is out of range. -/
def div? (x y : Binary) : Option Binary :=
  let (a, b) := x.ratio
  let (c, d) := y.ratio
  round? (x.negative != y.negative) (a * d) (b * c)

/-- The number nearest to a power of ten. -/
def powerOfTen (power : Nat) : Binary := (round? false (Nat.pow 10 power) 1).getD zero

/-- The largest power of ten that is in range. -/
def maxPowerOfTen : Nat := 308

/-- Multiply by a power of ten, one rounding for each factor. A number that vanishes stays zero; one
that grows out of range is none. The exponent is taken in steps of the largest power in range, whose
number is bounded by `steps`. -/
def scaleByTen? : (steps : Nat) → (x : Binary) → (power : Int) → Option Binary
  | 0, x, _ => some x
  | steps + 1, x, power =>
    if power.natAbs ≤ maxPowerOfTen then
      if 0 ≤ power then x.mul? (powerOfTen power.natAbs) else x.div? (powerOfTen power.natAbs)
    else if x.mantissa = 0 then some x
    else if 0 ≤ power then none
    else
      match x.div? (powerOfTen maxPowerOfTen) with
      | none => none
      | some y => scaleByTen? steps y (power + maxPowerOfTen)

/-- The number read from decimal digits and a power of ten: the digits are rounded first, and every
scaling after that. None when it is out of range. -/
def ofDecimal? (negative : Bool) (digits : Nat) (power : Int) : Option Binary :=
  match round? false digits 1 with
  | none => none
  | some x => (scaleByTen? 8 x power).map fun y => { y with negative }

end Binary

/-! ## Shortest decimal text -/

/-- A decimal number: `digits * 10 ^ power`, with no zero at the end of the digits. -/
structure Decimal where
  digits : Nat
  power : Int
  deriving DecidableEq, Repr

namespace Binary

/-- The fraction `num / den` in units of `10 ^ power`, as numerator and denominator. -/
def inUnits (num den : Nat) (power : Int) : Nat × Nat :=
  if 0 ≤ power then (num, den * Nat.pow 10 power.toNat)
  else (num * Nat.pow 10 (-power).toNat, den)

/-- The numbers that round to `x`, in quarters of its last binary digit: from `low` to `high`. Below
a power of two the next number is only half as far away. -/
def quarters (x : Binary) : Nat × Nat :=
  let low := if x.mantissa = Nat.pow 2 (precision - 1) ∧ leastExponent < x.exponent then 1 else 2
  (4 * x.mantissa - low, 4 * x.mantissa + 2)

/-- Whether a decimal reads back as `x`; the ends belong to even mantissas. -/
def readsBack (x : Binary) (candidate : Nat) (power : Int) : Bool :=
  let (low, high) := x.quarters
  let (lowNum, lowDen) := scale low 1 (x.exponent - 2)
  let (highNum, highDen) := scale high 1 (x.exponent - 2)
  let (num, den) := if 0 ≤ power then (candidate * Nat.pow 10 power.toNat, 1)
    else (candidate, Nat.pow 10 (-power).toNat)
  if x.mantissa % 2 = 0 then lowNum * den ≤ num * lowDen && num * highDen ≤ highNum * den
  else lowNum * den < num * lowDen && num * highDen < highNum * den

/-- The decimal nearest to `x` among those in units of `10 ^ power` that read back as `x`. -/
def onGrid? (x : Binary) (power : Int) : Option Nat :=
  let (num, den) := x.ratio
  let (n, d) := inUnits num den power
  let below := n / d
  match x.readsBack below power, x.readsBack (below + 1) power with
  | true, true => some (if 2 * (n % d) ≤ d then below else below + 1)
  | true, false => some below
  | false, true => some (below + 1)
  | false, false => none

/-- The power of ten of the leading decimal digit of a positive fraction. -/
def leadingPower (num den : Nat) : Int :=
  let guess : Int := ((Nat.toDigits 10 num).length : Int) - (Nat.toDigits 10 den).length
  let (n, d) := inUnits num den guess
  if n < d then guess - 1 else guess

/-- The first grid, from coarse to fine, on which some decimal reads back. -/
def firstOnGrid (x : Binary) (leading : Int) : (count digits : Nat) → Decimal
  | 0, digits => ⟨(x.onGrid? (leading - digits)).getD 0, leading - digits⟩
  | count + 1, digits =>
    match x.onGrid? (leading - digits) with
    | some found => ⟨found, leading - digits⟩
    | none => firstOnGrid x leading count (digits + 1)

/-- Drop zeros at the end of the digits. -/
def dropZeros : (bound : Nat) → Decimal → Decimal
  | 0, decimal => decimal
  | bound + 1, decimal =>
    if decimal.digits ≠ 0 ∧ decimal.digits % 10 = 0 then
      dropZeros bound ⟨decimal.digits / 10, decimal.power + 1⟩
    else decimal

/-- The shortest decimal that reads back as the absolute value of `x`. -/
def shortest (x : Binary) : Decimal :=
  if x.mantissa = 0 then ⟨0, 0⟩
  else
    let (num, den) := x.ratio
    dropZeros 20 (x.firstOnGrid (leadingPower num den) 17 0)

/-- Put a minus sign in front of a negative number. -/
def withSign (x : Binary) (text : String) : String := if x.negative then "-" ++ text else text

/-- Zeros, as many as asked for. -/
def zeros (count : Int) : String := String.ofList (List.replicate count.toNat '0')

/-- The shortest digits in positional notation, without a point for a whole number. -/
def positional (x : Binary) : String :=
  let ⟨digits, power⟩ := x.shortest
  let text := toString digits
  x.withSign <|
    if 0 ≤ power then if digits = 0 then "0" else text ++ zeros power
    else
      let whole : Int := text.length + power
      if 0 < whole then
        String.ofList (text.toList.take whole.toNat) ++ "." ++
          String.ofList (text.toList.drop whole.toNat)
      else "0." ++ zeros (-whole) ++ text

/-- The shortest digits with a point, positional from `1e-5` up to below `1e16` and with an exponent
otherwise. -/
def compact (x : Binary) : String :=
  let ⟨digits, power⟩ := x.shortest
  let text := toString digits
  let whole : Int := text.length + power
  x.withSign <|
    if digits = 0 then "0.0"
    else if 0 ≤ power ∧ whole ≤ 16 then text ++ zeros power ++ ".0"
    else if 0 < whole ∧ whole ≤ 16 then
      String.ofList (text.toList.take whole.toNat) ++ "." ++
        String.ofList (text.toList.drop whole.toNat)
    else if -5 < whole ∧ whole ≤ 0 then "0." ++ zeros (-whole) ++ text
    else
      let exponent := "e" ++ toString (whole - 1)
      if text.length = 1 then text ++ exponent
      else String.ofList (text.toList.take 1) ++ "." ++ String.ofList (text.toList.drop 1)
        ++ exponent

end Binary

end BundleFinish
