import ResourceClient.Decimal.Shortest
import ResourceClient.Json.Value

/-! # The compact text of a JSON value

    The text has no blanks, members stand in key order, and a string escapes
    the quotation mark, the reverse solidus and the control characters below
    `U+0020` only.  A floating point number is written with the fewest
    digits that read back, positionally between `1e-5` and `1e16`. -/

namespace ResourceClient.Json

/-- Floating point numbers are positional from `10 ^ -5` to below `10 ^ 16`,
    otherwise they have an exponent with its sign. -/
def numberLayout : Decimal.Layout := ⟨-5, 16, "e", "+"⟩

/-- A digit of a hexadecimal number in lower case. -/
def hexDigit (n : Nat) : Char := (Nat.toDigits 16 (n % 16)).headD '0'

/-- A character inside a string. -/
def escape (c : Char) : List Char :=
  match c with
  | '"' => ['\\', '"']
  | '\\' => ['\\', '\\']
  | '\n' => ['\\', 'n']
  | '\r' => ['\\', 'r']
  | '\t' => ['\\', 't']
  | '\x08' => ['\\', 'b']
  | '\x0c' => ['\\', 'f']
  | c =>
    if c.toNat < 0x20 then ['\\', 'u', '0', '0', hexDigit (c.toNat / 16), hexDigit c.toNat]
    else [c]

/-- Appends a string with its quotation marks. -/
def appendString (acc : String) (s : String) : String :=
  (s.foldl (fun acc c => (escape c).foldl String.push acc) (acc.push '"')).push '"'

mutual

/-- Appends the text of a value. -/
def appendValue (acc : String) : Json → String
  | null => acc ++ "null"
  | bool b => acc ++ (if b then "true" else "false")
  | int n => acc ++ toString n
  | float x => acc ++ numberLayout.render x
  | string s => appendString acc s
  | array items => appendItems (acc.push '[') true items
  | object entries => appendEntries (acc.push '{') true entries

/-- Appends the elements that are left of an array, with the bracket that closes it. -/
def appendItems (acc : String) (first : Bool) : List Json → String
  | [] => acc.push ']'
  | v :: rest => appendItems (appendValue (if first then acc else acc.push ',') v) false rest

/-- Appends the members that are left of an object, with the brace that closes it. -/
def appendEntries (acc : String) (first : Bool) : List (String × Json) → String
  | [] => acc.push '}'
  | (k, v) :: rest =>
    let named := (appendString (if first then acc else acc.push ',') k).push ':'
    appendEntries (appendValue named v) false rest

end

/-- The compact text of a value. -/
def render (v : Json) : String := appendValue "" v

/-- The text of a value as a query parameter: a string is its own text. -/
def queryText : Json → String
  | string s => s
  | v => v.render

end ResourceClient.Json
