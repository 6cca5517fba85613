import ResourceClient.Binary64

/-! # The shortest decimal text of a binary number

    The digits are the fewest whose decimal number lies in the interval of
    reals that round to the binary number, and of those the nearest to it.
    The search is exact: on the grid of `n`-digit decimals only the two
    neighbours of the number can be nearest, so they are tried for
    `n = 1, 2, … 17` in natural number arithmetic.

    `Layout` holds the decisions of a written format: where positional text
    ends, and how an exponent is written. -/

namespace ResourceClient.Decimal

/-- A positive decimal number `digits * 10 ^ exponent`. -/
structure Scaled where
  /-- The digits as one natural number. -/
  digits : Nat
  /-- The power of ten they are scaled by. -/
  exponent : Int
  deriving DecidableEq, Repr

/-- The largest `k` with `10 ^ k ≤ num / den`, counted from below an estimate. -/
def leadingExponent (num den : Nat) : Int :=
  let estimate : Int := ((num.log2 : Int) - den.log2 - 1) * 30103 / 100000 - 1
  let reaches (k : Int) : Bool :=
    if 0 ≤ k then Nat.pow 10 k.toNat * den ≤ num else den ≤ num * Nat.pow 10 (-k).toNat
  let step (k : Int) : Int := if reaches (k + 1) then k + 1 else k
  step (step (step (step estimate)))

/-- The interval of reals that round to `x`, times four, over a common
    denominator: the lower end, the number itself, the upper end, the
    denominator.  The interval is narrower below a power of two. -/
def roundingInterval (x : Binary64) : Nat × Nat × Nat × Nat :=
  let (num, den) := x.ratio
  let unit := if 0 ≤ x.scale then 1 <<< x.scale.toNat else 1
  let below := if x.fraction = 0 ∧ 1 < x.biasedExponent then unit else 2 * unit
  (4 * num - below, 4 * num, 4 * num + 2 * unit, 4 * den)

/-- The nearest decimal with `n` digits that rounds to `x`, if one does. -/
def nearest? (x : Binary64) (leading : Int) (n : Nat) : Option Scaled :=
  let (low, mid, high, den) := roundingInterval x
  let exponent := leading + 1 - n
  -- both sides are scaled so that the grid has unit steps
  let up := if 0 ≤ exponent then 1 else Nat.pow 10 (-exponent).toNat
  let down := if 0 ≤ exponent then Nat.pow 10 exponent.toNat else 1
  let unit := den * down
  let closed := x.significand % 2 == 0
  let fits (d : Nat) : Bool :=
    let value := d * unit
    if closed then low * up ≤ value && value ≤ high * up
    else low * up < value && value < high * up
  let floor := mid * up / unit
  let overFloor := mid * up - floor * unit
  let preferFloor := 2 * overFloor < unit || (2 * overFloor == unit && floor % 2 == 0)
  match fits floor, fits (floor + 1) with
  | true, true => some ⟨if preferFloor then floor else floor + 1, exponent⟩
  | true, false => some ⟨floor, exponent⟩
  | false, true => some ⟨floor + 1, exponent⟩
  | false, false => none

/-- The first of the grids `n, n + 1, …` that holds a decimal rounding to `x`. -/
def search (x : Binary64) (leading : Int) (n : Nat) : (fuel : Nat) → Scaled
  | 0 => ⟨x.ratio.1, 0⟩
  | fuel + 1 =>
    match nearest? x leading n with
    | some d => d
    | none => search x leading (n + 1) fuel

/-- The shortest decimal that rounds to a positive number; seventeen digits always do. -/
def shortest (x : Binary64) : Scaled :=
  search x (leadingExponent x.ratio.1 x.ratio.2) 1 17

/-! ## Layout -/

/-- How a decimal is set out as text. -/
structure Layout where
  /-- Positional text is used down to this decimal exponent of the leading digit. -/
  plainFrom : Int
  /-- Positional text is used below this decimal exponent of the leading digit. -/
  plainBelow : Int
  /-- What stands between the digits and the exponent. -/
  mark : String
  /-- The sign of an exponent that is not negative. -/
  plus : String
  deriving Repr

/-- Drops the zeros at the end of the digits. -/
def stripZeros : List Char → List Char
  | [] => []
  | c :: rest =>
    match stripZeros rest with
    | [] => if c = '0' then [] else [c]
    | kept => c :: kept

/-- The text of a positive decimal whose digits are `ds`, the leading one at `10 ^ leading`. -/
def Layout.place (l : Layout) (ds : List Char) (leading : Int) : String :=
  if l.plainFrom ≤ leading ∧ leading < l.plainBelow then
    if leading < 0 then
      String.ofList ('0' :: '.' :: List.replicate ((-leading).toNat - 1) '0' ++ ds)
    else
      let whole := leading.toNat + 1
      let before := (ds ++ List.replicate (whole - ds.length) '0').take whole
      let after := ds.drop whole
      String.ofList (before ++ '.' :: (if after.isEmpty then ['0'] else after))
  else
    let head := ds.take 1
    let tail := ds.drop 1
    let body := if tail.isEmpty then head else head ++ '.' :: tail
    let sign := if leading < 0 then "-" else l.plus
    String.ofList body ++ l.mark ++ sign ++ toString leading.natAbs

/-- The text of a finite number in a layout: its sign, then its shortest decimal. -/
def Layout.render (l : Layout) (x : Binary64) : String :=
  let sign := if x.negative then "-" else ""
  if x.isZero then sign ++ "0.0"
  else
    let d := shortest x
    let ds := Nat.toDigits 10 d.digits
    sign ++ l.place (stripZeros ds) (d.exponent + (ds.length : Int) - 1)

end ResourceClient.Decimal
