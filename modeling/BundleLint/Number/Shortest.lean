/-!
# Shortest decimals

The fewest decimal digits that read back as the same double. A double stands for the interval of
reals that round to it; its ends belong to the interval when the mantissa is even. For each number
of digits the two neighbours of the double on that decimal grid are tested, and of two that lie
in the interval the nearer one is taken, or the even one when both are equally near.
-/

namespace BundleLint.Number

/-- A positive double as `mantissa * 2 ^ exponent`. -/
structure Dyadic where
  /-- Mantissa, below `2 ^ 53`. -/
  mantissa : Nat
  /-- Exponent of two. -/
  exponent : Int
  /-- Whether the gap below is half the gap above. -/
  narrowBelow : Bool

/-- Magnitude of a finite double. -/
def Dyadic.ofFloat (x : Float) : Dyadic :=
  let bits := x.toBits.toNat
  let fraction := bits % Nat.pow 2 52
  let exponent : Nat := bits / Nat.pow 2 52 % Nat.pow 2 11
  if exponent == 0 then ⟨fraction, -1074, false⟩
  else ⟨fraction + Nat.pow 2 52, (exponent : Int) - 1075, fraction == 0 && 1 < exponent⟩

/-- A decimal `digits * 10 ^ exponent`. -/
structure Decimal where
  /-- All digits as one number. -/
  digits : Nat
  /-- Exponent of ten. -/
  exponent : Int

/-- The value and the ends of its interval, over one denominator. -/
structure Interval where
  /-- Numerator of the value. -/
  value : Nat
  /-- Numerator of the lower end. -/
  low : Nat
  /-- Numerator of the upper end. -/
  high : Nat
  /-- Common denominator. -/
  denominator : Nat
  /-- Whether the ends belong to the interval. -/
  closed : Bool

/-- The reals that round to a double. -/
def Dyadic.interval (x : Dyadic) : Interval :=
  let scale := Nat.pow 2 x.exponent.toNat
  { value := 4 * x.mantissa * scale
    low := (4 * x.mantissa - (if x.narrowBelow then 1 else 2)) * scale
    high := (4 * x.mantissa + 2) * scale
    denominator := 4 * Nat.pow 2 (-x.exponent).toNat
    closed := x.mantissa % 2 == 0 }

/-- Whether `digits * 10 ^ exponent` lies in an interval. -/
def Interval.contains (interval : Interval) (digits : Nat) (exponent : Int) : Bool :=
  let point := digits * Nat.pow 10 exponent.toNat * interval.denominator
  let scale := Nat.pow 10 (-exponent).toNat
  let low := interval.low * scale
  let high := interval.high * scale
  if interval.closed then low ≤ point && point ≤ high else low < point && point < high

/-- The exponent of ten of the first digit of a positive quotient. -/
def leadingExponent (numerator denominator : Nat) : Int :=
  if denominator ≤ numerator then (Nat.toDigits 10 (numerator / denominator)).length - 1
  else
    let size := (Nat.toDigits 10 (denominator / numerator)).length
    if denominator ≤ numerator * Nat.pow 10 (size - 1) then 1 - (size : Int) else -(size : Int)

/-- The better neighbour on the decimal grid with this exponent, if one lies in the interval. -/
def Interval.nearestOn? (interval : Interval) (exponent : Int) : Option Decimal :=
  let numerator := interval.value * Nat.pow 10 (-exponent).toNat
  let denominator := interval.denominator * Nat.pow 10 exponent.toNat
  let below := numerator / denominator
  let above := below + 1
  let remainder := 2 * (numerator % denominator)
  let belowIsNearer := remainder < denominator || (remainder == denominator && below % 2 == 0)
  let belowFits := interval.contains below exponent
  let aboveFits := interval.contains above exponent
  if belowFits && (!aboveFits || belowIsNearer) then some ⟨below, exponent⟩
  else if aboveFits then some ⟨above, exponent⟩
  else none

/-- The first hit on grids of one digit, two digits and so on. -/
def Interval.shortestFrom (interval : Interval) (leading : Int) (size : Nat) : Nat → Decimal
  | 0 => ⟨0, 0⟩
  | more + 1 =>
    match interval.nearestOn? (leading - size + 1) with
    | some decimal => decimal
    | none => interval.shortestFrom leading (size + 1) more

/-- Shortest decimal that reads back as a positive double. -/
def shortest (x : Float) : Decimal :=
  let interval := (Dyadic.ofFloat x).interval
  interval.shortestFrom (leadingExponent interval.value interval.denominator) 1 17

/-- How a decimal is written out. -/
structure RealFormat where
  /-- Least exponent of the first digit that is written positionally. -/
  leastPositional : Int
  /-- Least exponent of the first digit that is no longer written positionally. -/
  leastScientific : Int
  /-- Least number of digits of an exponent. -/
  exponentWidth : Nat

/-- Numbers are written positionally from `0.0001` to below `10 ^ 16`. -/
def plainFormat : RealFormat := ⟨-4, 16, 2⟩

/-- Writes digits of which the first has this exponent of ten. -/
def RealFormat.write (format : RealFormat) (digits : List Char) (leading : Int) : List Char :=
  if format.leastPositional ≤ leading && leading < format.leastScientific then
    if leading < 0 then '0' :: '.' :: List.replicate (leading.natAbs - 1) '0' ++ digits
    else
      let size := leading.toNat + 1
      let whole := digits.take size ++ List.replicate (size - digits.length) '0'
      let fraction := digits.drop size
      whole ++ '.' :: (if fraction.isEmpty then ['0'] else fraction)
  else
    let fraction := digits.drop 1
    let exponent := Nat.toDigits 10 leading.natAbs
    digits.take 1 ++ (if fraction.isEmpty then [] else '.' :: fraction) ++
      'e' :: (if leading < 0 then '-' else '+') ::
        (List.replicate (format.exponentWidth - exponent.length) '0' ++ exponent)

/-- Digits of a decimal without trailing zeros, and the exponent of the first one. -/
def Decimal.leadingDigits (decimal : Decimal) : List Char × Int :=
  let digits := Nat.toDigits 10 decimal.digits
  let significant := (digits.reverse.dropWhile (· == '0')).reverse
  (significant, decimal.exponent + digits.length - 1)

/-- Text of a double: a name for what is no finite number, else its shortest decimal. -/
def realText (x : Float) : String :=
  if x.isNaN then "nan"
  else
    let negative := x.toBits.toNat / Nat.pow 2 63 == 1
    let magnitude := x.abs
    let body :=
      if magnitude.isInf then "inf".toList
      else if magnitude == 0.0 then "0.0".toList
      else
        let (digits, leading) := (shortest magnitude).leadingDigits
        plainFormat.write digits leading
    String.ofList (if negative then '-' :: body else body)

end BundleLint.Number
