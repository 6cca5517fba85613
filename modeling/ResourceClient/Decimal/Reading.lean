import ResourceClient.Binary64

/-! # Reading a decimal literal

    A literal is the sign and the digits as written.  `Literal.value?` says
    which number it stands for.  An integer literal that fits 64 bits is
    that integer.  Any other literal is read quickly rather than exactly:
    the leading digits that fit an unsigned 64-bit significand are kept, and
    the significand is multiplied or divided by one power of ten in floating
    point, so the last bit may differ from the nearest number.  A literal
    too large for a finite number has no value. -/

namespace ResourceClient.Decimal

/-- A decimal literal as written: digits are numbers below ten. -/
structure Literal where
  /-- Whether a minus sign stands in front. -/
  negative : Bool
  /-- The digits before the point. -/
  whole : List Nat
  /-- The digits after the point, if there is one. -/
  fraction : Option (List Nat)
  /-- The exponent, if there is one: whether it is negative, and its digits. -/
  exponent : Option (Bool × List Nat)
  deriving Repr

/-- The value of a literal: an integer or a floating point number. -/
inductive Number where
  /-- An integer between `-2 ^ 63` and `2 ^ 64 - 1`. -/
  | int (n : Int)
  /-- A floating point number. -/
  | float (x : Binary64)
  deriving Repr

/-- Appends digits to a number while it stays at most `limit`; also how many digits are left. -/
def accumulate (limit : Nat) (value : Nat) : List Nat → Nat × Nat
  | [] => (value, 0)
  | d :: rest =>
    if value * 10 + d ≤ limit then accumulate limit (value * 10 + d) rest
    else (value, rest.length + 1)

/-- The largest unsigned 64-bit significand. -/
def maxSignificand : Nat := UInt64.size - 1

/-- The largest exponent a literal may hold, and the bound that sums of exponents stop at. -/
def maxExponent : Nat := 2147483647

/-- Ten to the power `n`, rounded to a floating point number. -/
def powerOfTen (n : Nat) : Float := Float.ofScientific 1 false n

/-- `f * 10 ^ e` by one product or quotient with a power of ten, after dividing
    by the largest finite power while `e` lies below all of them; `none` when
    the product is not finite. -/
def scaleByTen (f : Float) (e : Int) : (fuel : Nat) → Option Float
  | 0 => some f
  | fuel + 1 =>
    if e.natAbs ≤ 308 then
      if 0 ≤ e then
        let g := f * powerOfTen e.natAbs
        if g.isInf then none else some g
      else some (f / powerOfTen e.natAbs)
    else if f == 0.0 then some f
    else if 0 ≤ e then none
    else scaleByTen (f / powerOfTen 308) (e + 308) fuel

/-- The floating point number `significand * 10 ^ e` with a sign. -/
def floatOfParts? (negative : Bool) (significand : Nat) (e : Int) : Option Number :=
  (scaleByTen (Float.ofNat significand) e (e.natAbs / 308 + 1)).map fun f =>
    .float (.ofFloat (if negative then -f else f))

/-- Keeps an exponent between the bounds that sums of exponents stop at. -/
def clampExponent (e : Int) : Int := max (-maxExponent - 1) (min e maxExponent)

/-- A literal without point and exponent whose digits all fit.  Minus zero and
    integers below `-2 ^ 63` are floating point numbers. -/
def integerOf (negative : Bool) (significand : Nat) : Number :=
  if !negative then .int significand
  else if significand = 0 ∨ 0x8000000000000000 < significand then
    .float (.ofFloat (-(Float.ofNat significand)))
  else .int (-(significand : Int))

/-- The number a literal stands for, `none` when it is too large. -/
def Literal.value? (l : Literal) : Option Number :=
  let (significand, dropped) := accumulate maxSignificand 0 l.whole
  match l.fraction, l.exponent, dropped with
  | none, none, 0 => some (integerOf l.negative significand)
  | fraction?, exponent?, _ =>
    let fraction := fraction?.getD []
    let (significand, ignored) := accumulate maxSignificand significand fraction
    let shift : Int := dropped - ((fraction.length - ignored : Nat) : Int)
    match exponent? with
    | none => floatOfParts? l.negative significand shift
    | some (down, digits) =>
      let (e, excess) := accumulate maxExponent 0 digits
      if excess = 0 then
        floatOfParts? l.negative significand
          (clampExponent (if down then shift - e else shift + e))
      else if significand = 0 ∨ down then
        some (.float (.ofFloat (if l.negative then -0.0 else 0.0)))
      else none

end ResourceClient.Decimal
