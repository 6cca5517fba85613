import ResourceClient.Text.Table

/-! # Directions of writing

    A label that mixes directions of writing may look like another one.  In
    a domain name that holds a character written from right to left, every
    label therefore begins with a letter, which gives its direction, holds
    only characters that go with it, and ends in one that shows where it
    ends. -/

namespace ResourceClient.Url

/-- Characters with the numbers of their directions. -/
def directionRows : List String := [
  "0,8,9 9,4,b 5,d,9 e,4,b 5,1,8 2,2,7 3,4,8 5,0,5 1,0,6 1,0,5 1,1,6 2,9,4 a,0,6 1,11,8 1s,3,8",
  "4,0,9 y,0,8 1,3,7 4,8,8 a,1,7 6,x,8 1t,0,8 ci,1,8 9,d,8 g,r,8 t,g,8 h,33,a 39,0,8 3l,0,8",
  "3x,6,a 7b,4,8 5,0,7 2,18,a 19,0,1 1,0,a 1,0,1 1,1,a 2,0,1 1,1,a 2,0,1 1,0,a 9,10,1 1i,1,8",
  "2,0,2 1,1,7 2,0,2 1,0,6 1,0,2 1,1,8 2,a,a b,1b,2 1c,k,a l,9,3 a,0,7 1,1,3 2,2,2 3,0,a 1,2s,2",
  "2t,6,a 8,0,8 1,5,a 6,1,2 2,1,a 2,0,8 1,3,a 4,1,2 2,9,4 a,m,2 n,0,a 1,t,2 u,q,a t,2g,2 2h,a,a",
  "b,0,2 f,16,1 17,8,a 9,1,1 2,3,8 4,0,1 3,0,a 1,n,1 o,3,a 4,0,1 1,8,a 9,0,1 1,2,a 3,0,1 1,4,a",
  "7,14,1 15,2,a 5,0,1 2,1a,2 1k,7,a 8,15,2 16,1k,a 34,0,a 2,0,a 5,7,a c,0,a 4,6,a h,1,a v,0,a",
  "1n,0,a 5,3,a c,0,a l,1,a g,1,7 9,0,7 3,4,a 1q,0,a 5,g,a 1b,1,a 5,0,a c,1,a 1n,0,a 5,7,a",
  "c,0,a l,1,a f,0,7 9,7,a 1u,0,a 3,0,a 2,3,a c,9,a l,1,a w,0,a 1q,0,a d,0,a 12,5,8 6,0,7 1,0,8",
  "6,0,a 4,0,a 1k,0,a 2,2,a 8,g,a s,1,a m,6,8 9,0,a 1n,0,a g,1,a m,1,a u,1,a 1n,1,a 6,3,a c,0,a",
  "l,1,a v,0,a 21,0,a 8,4,a 2n,0,a 3,6,a b,0,7 8,7,a 2y,0,a 3,8,a k,5,a 28,1,a t,0,a 2,0,a",
  "2,0,a 1,3,8 1j,d,a f,4,a 6,1,a 7,1b,a 1l,0,a 2v,3,a 5,5,a 7,1,a 4,1,a r,1,a 6,2,a j,3,a",
  "h,0,a 3,1,a 8,0,a g,0,a jk,2,a 1f,9,8 34,0,8 ij,1,8 3b,2,a w,1,a w,1,a w,1,a 1x,6,a f,0,a",
  "3,a,a i,0,7 2,0,a j,q,8 45,1,a 10,0,a 3b,2,a 7,1,a b,0,a 7,2,a 7,5,8 4e,x,8 1l,1,a 4,0,a",
  "1n,0,a 2,8,a a,0,a 3,7,a e,c,a 1p,2b,a 3o,0,a 2,4,a 6,0,a 6,0,a 15,8,a l,1,a y,3,a 6,1,a",
  "3,2,a 1n,0,a 2,1,a 5,0,a 2,2,a 1p,7,a a,1,a 4a,2,a 4,c,a e,6,a b,0,a 7,0,a 4,1,a 5k,1r,a",
  "gc,1,9 4,n,8 w,2,7 5,e,8 f,0,6 1,p,8 2j,w,7 1c,w,a 1g,11,8 16,0,7 c,j,8 28,3r,8 3s,0,5 1,0,7",
  "1,81,8 9z,p,8 r,lx,8 lz,9e,8 gj,lb,8 rp,5,8 a,2,a a,6,8 3q,0,a 2p,v,a w,ec,8 eg,o,8 y,3,a",
  "6,0,8 7,0,8 6,2,8 2k,1,a 7,0,8 2j,0,8 5h,z,8 5j4,1r,8 h5c,1i,8 al,2,8 2q,3,a 4,0,8 1,9,a",
  "a,1,8 w,1,a 2a,1,a g,x,8 3s,0,8 3e,0,a 4,0,a 5,0,a q,1,a 3,3,8 4,0,a c,1,7 1o,3,8 28,1,a",
  "s,h,a v,0,a 13,7,a x,a,a 1l,2,a 1f,0,a 3,3,a 6,1,a 15,0,a 1w,5,a 8,1,a 4,1,a e,0,a 9,0,a",
  "1c,0,a 1g,0,a 2,2,a 5,1,a 7,1,a 3,0,a 17,1,a a,0,a 38,1,8 3f,0,a 3,0,a 5,0,a fn5,0,a 44,g,2",
  "b0,5d,8 6a,f,a 11,1,8 1a,0,2 i6,0,8 1r,24,8 28,g,8 31,0,a 6b,0,a 1,q,4 45,4,a wa,7v,1 7z,0,8",
  "1,68,1 69,e,a f,11,1 14,7,a 8,4k,1 4l,1,a 6,22,1 26,6,8 7,cf,1 cg,z,2 10,3,a c,9a,3 9c,15,1",
  "17,1,a 2,3e,1 3n,l,2 m,a,a b,8,2 v,h,1 i,3,a 4,34,1 3f,0,a 1j,e,a q,j,8 u,0,a 3,1,a c,2,a",
  "1g,3,a 6,1,a 9,0,a 1q,2,a 13,4,a 6,7,a 1y,0,a d,1,a 1i,8,a j,3,a 6,0,a 2o,2,a 5,0,a 2,1,a",
  "8,0,a 4h,0,a 4,7,a t,1,a 1n,1,a 5,0,a 12,e,a 5u,7,a a,2,a 4,0,a o,0,a 2d,5,a 7,0,a 5,1,a",
  "3,1,a 6o,3,a a,1,a 3,1,a t,1,a 2f,7,a a,0,a 2,1,a x,c,8 23,0,a 2,0,a 3,5,a 7,0,a 2u,2,a",
  "5,3,a 5,4,a 7c,8,a a,1,a 76,1,a 3,0,a 5,0,a 41,7,a c,0,a x,5,a 8,1,a 16,5,a 8,3,a c,0,a",
  "a,5,a 8,2,a 1d,c,a e,1,a bc,d,a 2q,l,a o,6,a 8,1,a 3,1,a 3g,k,a m,0,a 21,1,a 5,0,a 2,0,a",
  "9o,1,a 6a,7,8 8,3,7 4,g,8 etr,4,a 1s,6,a tb,0,a 1s,3,a 2b,0,8 2,0,a f5l,1,a 3mr,1y,a h3,2,a",
  "k,7,a a,6,a 11,3,a 1r,2g,8 2h,2,a 3,0,8 57,2e,8 1ds,1i,a 1n,1d,a 1m,0,a f,0,a n,k,a 12d,16,a",
  "8g,6,a am,0,a 1q,3,a j,0,7 zl,5r,1 5s,6,a 2a,x,1 y,6,a 7,k,1 me,5o,2 hr,fz,8 hp,2,8 1s,0,8",
  "4z,1uy,8"]

/-- How a character takes part in a direction of writing. -/
inductive Direction where
  /-- A letter written from left to right. -/
  | left
  /-- A letter written from right to left. -/
  | right
  /-- A letter of the Arabic scripts. -/
  | arabic
  /-- A digit of the Arabic scripts. -/
  | arabicDigit
  /-- Any other digit. -/
  | digit
  /-- A sign that goes with digits or stands between words. -/
  | neutral
  /-- A mark above or below another character. -/
  | mark
  /-- A character that no label of such a domain name holds. -/
  | other
  deriving DecidableEq, Repr

namespace Direction

/-- The direction with a number of the table. -/
def ofNumber : Nat → Direction
  | 1 => right
  | 2 => arabic
  | 3 => arabicDigit
  | 4 => digit
  | 5 | 6 | 7 | 8 | 9 => neutral
  | 10 => mark
  | _ => other

/-- The ranges of the table. -/
def table : List Text.CodeRange := Text.ranges directionRows

/-- The direction of a character; letters from left to right are not in the table. -/
def of (c : Char) : Direction :=
  match Text.valueIn? table c.toNat with
  | some n => ofNumber n
  | none => left

/-- Whether a character makes the rules apply. -/
def isRightToLeft (d : Direction) : Bool := d == right || d == arabic || d == arabicDigit

/-- The directions with the marks at the end left out. -/
def withoutEndMarks (ds : List Direction) : List Direction :=
  (ds.reverse.dropWhile (· == mark)).reverse

/-- Whether a label may end so. -/
def endsIn (ends : List Direction) (ds : List Direction) : Bool :=
  match (withoutEndMarks ds).getLast? with
  | some d => ends.contains d
  | none => false

/-- Whether a label that begins with a letter written from right to left follows the rules. -/
def fitsRightToLeft (ds : List Direction) : Bool :=
  ds.all [right, arabic, arabicDigit, digit, neutral, mark].contains
    && endsIn [right, arabic, digit, arabicDigit] ds
    && !(ds.contains digit && ds.contains arabicDigit)

/-- Whether a label that begins with a letter written from left to right follows the rules. -/
def fitsLeftToRight (ds : List Direction) : Bool :=
  ds.all [left, digit, neutral, mark].contains && endsIn [left, digit] ds

/-- Whether a label follows the rules. -/
def fits (ds : List Direction) : Bool :=
  match ds with
  | [] => true
  | right :: _ | arabic :: _ => fitsRightToLeft ds
  | left :: _ => fitsLeftToRight ds
  | _ => false

/-- Whether the labels of a domain name follow the rules, where these apply. -/
def fitAll (labels : List (List Char)) : Bool :=
  let directions := labels.map (·.map of)
  !(directions.any (·.any isRightToLeft)) || directions.all fits

end Direction

end ResourceClient.Url
