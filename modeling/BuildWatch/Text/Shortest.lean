/-!
The shortest decimal text of a binary floating-point number. Of the decimals that read back as the
number, one with the fewest digits is taken, and of those the nearest. Numbers whose first digit
stands between the fifth place after the point and the sixteenth before it are written out, all
others with an exponent.
-/

namespace BuildWatch.Shortest

/-- A positive number `mantissa * 2 ^ exponent`, and whether it is the least number of its
binade. -/
structure Binary where
  mantissa : Nat
  exponent : Int
  leastOfBinade : Bool

def Binary.ofBits (bits : UInt64) : Binary :=
  let fraction : Nat := bits.toNat % (1 <<< 52)
  let field : Nat := (bits.toNat >>> 52) % 2048
  if field = 0 then ⟨fraction, -1074, false⟩
  else ⟨(1 <<< 52) + fraction, (field : Int) - 1075, fraction = 0 && 1 < field⟩

structure Decimal where
  digits : Nat
  exponent : Int

/-- The numbers that round to a binary number, in units of `unit.1 / unit.2`: the number itself,
the ends of the interval, and whether the ends belong to it. -/
structure Interval where
  value : Nat
  low : Nat
  high : Nat
  unit : Nat × Nat
  closed : Bool

def Interval.of (number : Binary) : Interval :=
  let exponent := number.exponent - 2
  { value := 4 * number.mantissa
    low := 4 * number.mantissa - if number.leastOfBinade then 1 else 2
    high := 4 * number.mantissa + 2
    unit := if 0 ≤ exponent then (1 <<< exponent.toNat, 1) else (1, 1 <<< (-exponent).toNat)
    closed := number.mantissa % 2 = 0 }

def Interval.holds (interval : Interval) (numerator denominator : Nat) : Bool :=
  let point := numerator * interval.unit.2
  let low := interval.low * interval.unit.1 * denominator
  let high := interval.high * interval.unit.1 * denominator
  if interval.closed then low ≤ point && point ≤ high else low < point && point < high

def tenTo (exponent : Int) : Nat × Nat :=
  if 0 ≤ exponent then (Nat.pow 10 exponent.toNat, 1) else (1, Nat.pow 10 (-exponent).toNat)

/-- The two neighbours of the number on the grid of multiples of `10 ^ exponent`; of those in the
interval the nearer one, at equal distance the even one. -/
def Interval.onGrid (interval : Interval) (exponent : Int) : Option Nat :=
  let step := tenTo exponent
  let numerator := interval.value * interval.unit.1 * step.2
  let denominator := interval.unit.2 * step.1
  let below := numerator / denominator
  let left := numerator % denominator
  let lower := interval.holds (below * step.1) step.2
  let upper := interval.holds ((below + 1) * step.1) step.2
  if lower && upper then
    if 2 * left < denominator || 2 * left = denominator && below % 2 = 0 then some below
    else some (below + 1)
  else if lower then some below
  else if upper then some (below + 1)
  else none

def digitCount (number : Nat) : Nat :=
  (Nat.toDigits 10 number).length

def Interval.leading (interval : Interval) : Int :=
  (digitCount (interval.value * interval.unit.1) : Int) - digitCount interval.unit.2

def Interval.search (interval : Interval) : Nat → Int → Decimal
  | 0, exponent => ⟨0, exponent⟩
  | tries + 1, exponent =>
    match interval.onGrid exponent with
    | some digits => if digits = 0 then interval.search tries (exponent - 1) else ⟨digits, exponent⟩
    | none => interval.search tries (exponent - 1)

def Decimal.trim (decimal : Decimal) : Nat → Decimal
  | 0 => decimal
  | tries + 1 =>
    if decimal.digits % 10 = 0 && decimal.digits ≠ 0 then
      Decimal.trim ⟨decimal.digits / 10, decimal.exponent + 1⟩ tries
    else decimal

def Decimal.ofBinary (number : Binary) : Decimal :=
  let interval := Interval.of number
  (interval.search 25 (interval.leading + 1)).trim 25

def exponentText (exponent : Int) : String :=
  (if exponent < 0 then "-" else "+") ++ toString exponent.natAbs

def Decimal.text (decimal : Decimal) : String :=
  let digits := Nat.toDigits 10 decimal.digits
  let first := (digits.length : Int) - 1 + decimal.exponent
  let zeros (count : Int) := List.replicate count.toNat '0'
  if -5 ≤ first ∧ first ≤ 15 then
    if 0 ≤ decimal.exponent then String.ofList (digits ++ zeros decimal.exponent) ++ ".0"
    else if 0 ≤ first then
      String.ofList (digits.take (first.toNat + 1) ++ '.' :: digits.drop (first.toNat + 1))
    else String.ofList ('0' :: '.' :: zeros (-first - 1) ++ digits)
  else
    let fraction := if digits.length = 1 then [] else '.' :: digits.drop 1
    String.ofList (digits.take 1 ++ fraction) ++ "e" ++ exponentText first

def text (number : Float) : String :=
  let bits := number.toBits
  let sign := if bits.toNat >>> 63 = 1 then "-" else ""
  if bits.toNat % (1 <<< 63) = 0 then sign ++ "0.0"
  else sign ++ (Decimal.ofBinary (Binary.ofBits bits)).text

end BuildWatch.Shortest
