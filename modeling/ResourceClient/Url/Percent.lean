/-! # Percent encoding

    A byte that may not stand for itself in a part of a URL is written as a
    percent sign and two hexadecimal digits.  Which characters those are
    depends on the part; characters outside ASCII are always written byte by
    byte. -/

namespace ResourceClient.Url

/-- A hexadecimal digit in upper case. -/
def upperHexDigit (n : Nat) : Char :=
  if n < 10 then Char.ofNat (n + '0'.toNat) else Char.ofNat (n - 10 + 'A'.toNat)

/-- A byte in its encoded form. -/
def encodeByte (b : UInt8) : List Char :=
  ['%', upperHexDigit (b.toNat / 16), upperHexDigit (b.toNat % 16)]

/-- The UTF-8 bytes of a character in their encoded form. -/
def encodeChar (c : Char) : List Char := (String.singleton c).toUTF8.toList.flatMap encodeByte

/-- Encodes the characters that may not stand for themselves. -/
def percentEncode (mustEncode : Char → Bool) (cs : List Char) : List Char :=
  cs.flatMap fun c => if mustEncode c then encodeChar c else [c]

/-- Control characters and all characters outside ASCII. -/
def isControl (c : Char) : Bool := c.toNat < 0x20 || 0x7f ≤ c.toNat

/-- What a fragment encodes. -/
def fragmentSet (c : Char) : Bool := isControl c || " \"<>\x60".toList.contains c

/-- What a path encodes. -/
def pathSet (c : Char) : Bool := fragmentSet c || "#?\x7b\x7d".toList.contains c

/-- What a query encodes. -/
def querySet (c : Char) : Bool := isControl c || " \"#<>".toList.contains c

/-- What the query of a web address encodes. -/
def specialQuerySet (c : Char) : Bool := querySet c || c == '\''

/-- What a user name and a password encode. -/
def userinfoSet (c : Char) : Bool := pathSet c || "/:;=@[\\]^|".toList.contains c

/-- The value of a hexadecimal digit. -/
def hexDigit? (c : Char) : Option Nat :=
  if '0' ≤ c ∧ c ≤ '9' then some (c.toNat - '0'.toNat)
  else if 'a' ≤ c ∧ c ≤ 'f' then some (c.toNat - 'a'.toNat + 10)
  else if 'A' ≤ c ∧ c ≤ 'F' then some (c.toNat - 'A'.toNat + 10)
  else none

/-- The bytes of a text in which encoded bytes stand for themselves.  A percent
    sign without two digits after it is kept. -/
def percentDecode : List Char → List UInt8
  | '%' :: a :: b :: rest =>
    match hexDigit? a, hexDigit? b with
    | some high, some low => UInt8.ofNat (high * 16 + low) :: percentDecode rest
    | _, _ => '%'.toUInt8 :: percentDecode (a :: b :: rest)
  | c :: rest => (String.singleton c).toUTF8.toList ++ percentDecode rest
  | [] => []
termination_by cs => cs.length

/-- Whether a byte stands for itself in a form. -/
def isFormByte (b : UInt8) : Bool :=
  let c := Char.ofNat b.toNat
  c.isAlphanum || c == '*' || c == '-' || c == '.' || c == '_'

/-- A name or a value of a form: blanks become plus signs. -/
def formEncode (s : String) : String :=
  .ofList <| s.toUTF8.toList.flatMap fun b =>
    if isFormByte b then [Char.ofNat b.toNat] else if b == 0x20 then ['+'] else encodeByte b

/-- Pairs of names and values as a query. -/
def formQuery (pairs : List (String × String)) : String :=
  "&".intercalate (pairs.map fun p => formEncode p.1 ++ "=" ++ formEncode p.2)

end ResourceClient.Url
