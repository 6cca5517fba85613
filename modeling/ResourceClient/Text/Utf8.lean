/-! # Reading bytes as text

    Bytes that are not UTF-8 still have to be shown.  Each longest piece
    that could have begun a character, and each byte that could not, becomes
    one replacement character.  The reader goes through the bytes once;
    `State` is what it still owes to the character it is in. -/

namespace ResourceClient.Text

/-- Where the reader stands between two bytes. -/
inductive Utf8State where
  /-- Between characters. -/
  | start
  /-- Inside a character: the bits so far, the bytes owed after the next one,
      and the bounds of the next byte. -/
  | within (bits owed low high : Nat)
  deriving Repr

/-- The character shown for bytes that are none. -/
def replacement : Char := '\ufffd'

/-- A byte between characters: what it shows at once, and the state after it. -/
def Utf8State.lead (b : Nat) : List Char × Utf8State :=
  if b < 0x80 then ([Char.ofNat b], .start)
  else if b < 0xc2 then ([replacement], .start)
  else if b < 0xe0 then ([], .within (b % 0x20) 0 0x80 0xbf)
  else if b < 0xf0 then
    ([], .within (b % 0x10) 1 (if b = 0xe0 then 0xa0 else 0x80) (if b = 0xed then 0x9f else 0xbf))
  else if b < 0xf5 then
    ([], .within (b % 0x08) 2 (if b = 0xf0 then 0x90 else 0x80) (if b = 0xf4 then 0x8f else 0xbf))
  else ([replacement], .start)

/-- One byte: what it shows, and the state after it.  A byte that does not go on
    with the character it is in ends it as a replacement and starts anew. -/
def Utf8State.next (s : Utf8State) (b : Nat) : List Char × Utf8State :=
  match s with
  | .start => lead b
  | .within bits owed low high =>
    if low ≤ b ∧ b ≤ high then
      let bits := bits * 0x40 + b % 0x40
      match owed with
      | 0 => ([Char.ofNat bits], .start)
      | owed + 1 => ([], .within bits owed 0x80 0xbf)
    else
      let after := lead b
      (replacement :: after.1, after.2)

/-- The text that is shown for bytes, from a state of the reader. -/
def Utf8State.show (s : Utf8State) (acc : String) : List UInt8 → String
  | [] =>
    match s with
    | .start => acc
    | .within .. => acc.push replacement
  | b :: rest =>
    let step := s.next b.toNat
    step.2.show (step.1.foldl String.push acc) rest

/-- The text that is shown for bytes. -/
def showBytes (bytes : ByteArray) : String := Utf8State.start.show "" bytes.toList

end ResourceClient.Text
