/-! # Unsigned numerals

    A numeral is one digit or more, after a plus sign or none.  Its value
    has to stay within a limit, such as the largest 64-bit word. -/

namespace ResourceClient.Text

/-- The value of digits read after `value`, while it stays at most `limit`. -/
def digitsValue? (limit value : Nat) : List Char → Option Nat
  | [] => some value
  | c :: rest =>
    if '0' ≤ c ∧ c ≤ '9' then
      let next := value * 10 + (c.toNat - '0'.toNat)
      if next ≤ limit then digitsValue? limit next rest else none
    else none

/-- The value of a numeral that is at most `limit`. -/
def numeral? (limit : Nat) (s : String) : Option Nat :=
  match s.toList with
  | [] => none
  | '+' :: [] => none
  | '+' :: digits => digitsValue? limit 0 digits
  | digits => digitsValue? limit 0 digits

/-- The largest unsigned 32-bit word. -/
def maxWord32 : Nat := UInt32.size - 1

/-- The largest unsigned 64-bit word. -/
def maxWord64 : Nat := UInt64.size - 1

end ResourceClient.Text
