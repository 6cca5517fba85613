import ResourceClient.Text.Split

/-! # Tables of characters

    Properties of characters are kept in compact tables.  A table is a list
    of rows, a row holds records with blanks between them, and a record
    holds numbers in base 36 with commas between them.  The first number is
    the distance from the code point of the record before to that of this
    one; what the others say depends on the table. -/

namespace ResourceClient.Text

/-- The value of a digit or a small letter in base 36. -/
def digitOf (c : Char) : Nat :=
  if c.isDigit then c.toNat - '0'.toNat else c.toNat - 'a'.toNat + 10

/-- An unsigned number in base 36. -/
def readNatural (cs : List Char) : Nat := cs.foldl (fun n c => 36 * n + digitOf c) 0

/-- A number in base 36. -/
def readNumber : List Char → Int
  | '-' :: cs => -(readNatural cs : Int)
  | cs => readNatural cs

/-- The numbers of a record. -/
def readRecord (cs : List Char) : List Int := (splitAtEach ',' cs).map readNumber

/-- A record of a table. -/
structure Entry where
  /-- The code point that it is about. -/
  code : Nat
  /-- The other numbers. -/
  data : List Int

/-- Records in their order, the first of which counts from `start`. -/
def entriesFrom (start : Int) : List (List Int) → List Entry
  | [] => []
  | [] :: rest => entriesFrom start rest
  | (gap :: data) :: rest =>
    let code := start + gap
    ⟨code.toNat, data⟩ :: entriesFrom code rest

/-- The records of a table. -/
def entries (rows : List String) : List Entry :=
  entriesFrom 0 (rows.flatMap fun row => (splitAtEach ' ' row.toList).map readRecord)

/-- Consecutive code points with the same property. -/
structure CodeRange where
  /-- The first code point. -/
  first : Nat
  /-- The last code point. -/
  last : Nat
  /-- The property; zero where the table only tells members from others. -/
  value : Nat

/-- The ranges of a table: after its code point a record says how many follow,
    and which property they have. -/
def ranges (rows : List String) : List CodeRange :=
  (entries rows).map fun e =>
    ⟨e.code, e.code + (e.data.headD 0).toNat, ((e.data.drop 1).headD 0).toNat⟩

/-- The property of a code point, if the ranges have one. -/
def valueIn? (rs : List CodeRange) (code : Nat) : Option Nat :=
  (rs.find? fun r => r.first ≤ code && code ≤ r.last).map (·.value)

/-- Whether a code point is in one of the ranges. -/
def isIn (rs : List CodeRange) (code : Nat) : Bool := (valueIn? rs code).isSome

example : readRecord "1,-a,10".toList = [1, -10, 36] := by cbv
example : (ranges ["5,2,1 5,0,3"]).map (fun r => (r.first, r.last, r.value))
    = [(5, 7, 1), (10, 10, 3)] := by cbv

end ResourceClient.Text
