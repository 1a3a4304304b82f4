import BuildWatch.Json.Cursor

/-!
JSON numbers. A number without fraction and exponent is an integer while it fits into 64 bits; any
other is a floating-point number, made from the leading digits that fit into 64 bits and a power of
ten.
-/

namespace BuildWatch.Json

def isDigit (byte : UInt8) : Bool :=
  48 ≤ byte && byte ≤ 57

def digitValue (byte : UInt8) : Nat :=
  byte.toNat - 48

def isExponentMark (byte : UInt8) : Bool :=
  byte = 101 || byte = 69

def digits (cursor : Cursor) : List UInt8 × Cursor :=
  let found := cursor.rest.takeWhile isDigit
  (found, cursor.advance found.length)

/-- The value of the leading digits as long as it stays below `limit`, and how many digits were
used. -/
def significand (limit : Nat) (value used : Nat) : List UInt8 → Nat × Nat
  | [] => (value, used)
  | digit :: rest =>
    let next := value * 10 + digitValue digit
    if next < limit then significand limit next (used + 1) rest else (value, used)

def tenToFloat (exponent : Nat) : Float :=
  Float.ofScientific 1 false exponent

/-- `value * 10 ^ exponent` by steps of at most 308; none when it is too large. -/
def scale : Nat → Float → Int → Option Float
  | 0, _, _ => none
  | fuel + 1, value, exponent =>
    if exponent.natAbs ≤ 308 then
      if 0 ≤ exponent then
        let scaled := value * tenToFloat exponent.natAbs
        if scaled.isInf then none else some scaled
      else some (value / tenToFloat exponent.natAbs)
    else if value == 0.0 then some value
    else if 0 ≤ exponent then none
    else scale fuel (value / tenToFloat 308) (exponent + 308)

/-- The number with the given sign, significand and power of ten. A significand below 2^64 is
zero after three divisions, so five steps are enough. -/
def assemble (positive : Bool) (value : Nat) (exponent : Int) : Reader Found := fun cursor =>
  match scale 5 value.toUInt64.toFloat exponent with
  | some number => .ok (.float (if positive then number else -number), cursor)
  | none => cursor.failHere .outOfRange

def wordLimit : Nat := 1 <<< 64
def exponentLimit : Nat := 1 <<< 31

def exponentPart (positive : Bool) (value : Nat) (shift : Int) : Reader Found := fun cursor =>
  let afterMark := cursor.advance 1
  let negative := afterMark.peek = some 45
  let afterSign :=
    if negative || afterMark.peek = some 43 then afterMark.advance 1 else afterMark
  match afterSign.peek with
  | none => afterSign.failHere .endInValue
  | some first =>
    if isDigit first then
      let (found, after) := digits afterSign
      let (exponent, used) := significand exponentLimit 0 0 found
      if used < found.length then
        if value ≠ 0 && !negative then (afterSign.advance (used + 1)).failHere .outOfRange
        else .ok (.float (if positive then 0.0 else -0.0), after)
      else
        let shifted := if negative then shift - exponent else shift + exponent
        assemble positive value (max (-exponentLimit) (min (exponentLimit - 1) shifted)) after
    else (afterSign.advance 1).failHere .invalidNumber

def tail (positive : Bool) (value : Nat) (shift : Int) : Reader Found := fun cursor =>
  if cursor.peek.any isExponentMark then exponentPart positive value shift cursor
  else assemble positive value shift cursor

def fractionPart (positive : Bool) (value : Nat) (shift : Int) : Reader Found := fun cursor =>
  let (found, after) := digits (cursor.advance 1)
  let (value, used) := significand wordLimit value 0 found
  if used < found.length then tail positive value (shift - used) after
  else if used = 0 then
    match after.peek with
    | some _ => after.failNext .invalidNumber
    | none => after.failHere .endInValue
  else tail positive value (shift - used) after

def whole (positive : Bool) (value : Nat) : Found :=
  if positive then .integer value
  else if value = 0 ∨ 1 <<< 63 < value then .float (-value.toUInt64.toFloat)
  else .integer (-value)

def number (positive : Bool) : Reader Found := fun cursor =>
  match cursor.peek with
  | none => cursor.failHere .endInValue
  | some first =>
    if !isDigit first then (cursor.advance 1).failHere .invalidNumber
    else
      let (found, after) :=
        if first = 48 then ([first], cursor.advance 1) else digits cursor
      if first = 48 && after.peek.any isDigit then after.failNext .invalidNumber
      else
        let (value, used) := significand wordLimit 0 0 found
        let shift : Int := found.length - used
        if after.peek = some 46 then fractionPart positive value shift after
        else if after.peek.any isExponentMark then exponentPart positive value shift after
        else if used < found.length then assemble positive value shift after
        else .ok (whole positive value, after)

end BuildWatch.Json
