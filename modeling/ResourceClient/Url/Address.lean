import ResourceClient.Text.Split
import ResourceClient.Url.Percent

/-! # Numeric addresses

    A host that ends in a number is an IPv4 address; its parts may be
    decimal, octal or hexadecimal, and its last part fills the bytes that
    are left.  A host in brackets is an IPv6 address of eight 16-bit pieces,
    in which one run of zero pieces may be left out. -/

namespace ResourceClient.Url

/-! ## IPv4 -/

/-- A part of an IPv4 address. -/
inductive Ipv4Part where
  /-- A number. -/
  | number (n : Nat)
  /-- A number of more than 32 bits. -/
  | tooLarge
  /-- No number. -/
  | invalid

/-- The digits and the base of a part: hexadecimal after `0x`, octal after a zero. -/
def ipv4Digits : List Char → List Char × Nat
  | '0' :: 'x' :: rest | '0' :: 'X' :: rest => (rest, 16)
  | '0' :: c :: rest => (c :: rest, 8)
  | cs => (cs, 10)

/-- The value of digits in a base, if they all are digits of it. -/
def digitsIn? (base : Nat) (cs : List Char) : Option Nat :=
  cs.foldlM (fun n c =>
    match hexDigit? c with
    | some d => if d < base then some (n * base + d) else none
    | none => none) 0

/-- A part of an IPv4 address. -/
def ipv4Part (cs : List Char) : Ipv4Part :=
  if cs.isEmpty then .invalid
  else
    let (digits, base) := ipv4Digits cs
    match digitsIn? base digits with
    | none => .invalid
    | some n => if n < UInt32.size then .number n else .tooLarge

/-- The parts without an empty one at the end, unless it is the only one. -/
def addressParts (cs : List Char) : List (List Char) :=
  let parts := Text.splitAtEach '.' cs
  if 1 < parts.length ∧ parts.getLast? = some [] then parts.dropLast else parts

/-- Whether the last part of a host is a number, so that the host has to be an address. -/
def endsInNumber (cs : List Char) : Bool :=
  match (addressParts cs).getLast? with
  | none | some [] => false
  | some last =>
    last.all Char.isDigit ||
      match ipv4Part last with
      | .invalid => false
      | _ => true

/-- The number of an IPv4 address. -/
def ipv4? (cs : List Char) : Option Nat := do
  let parts := addressParts cs
  guard (parts.length ≤ 4)
  let numbers ← parts.mapM fun part =>
    match ipv4Part part with
    | .number n => some n
    | _ => none
  let last ← numbers.getLast?
  let leading := numbers.dropLast
  guard (leading.all (· ≤ 255))
  guard (last < Nat.pow 256 (4 - leading.length))
  return leading.foldl (fun n part => n * 256 + part) 0 * Nat.pow 256 (4 - leading.length) + last

/-- The text of an IPv4 address. -/
def ipv4Text (n : Nat) : String :=
  ".".intercalate ([n >>> 24, (n >>> 16) % 256, (n >>> 8) % 256, n % 256].map toString)

/-! ## IPv6 -/

/-- The pieces of an address while it is read: those before the run that is left
    out, and those after it, if it was met. -/
structure Ipv6Pieces where
  /-- The pieces before the run, last one first. -/
  before : List Nat := []
  /-- The pieces after the run, last one first. -/
  after : Option (List Nat) := none

namespace Ipv6Pieces

/-- How many pieces are known, where the run counts as one. -/
def count (p : Ipv6Pieces) : Nat :=
  p.before.length + match p.after with
    | some after => after.length + 1
    | none => 0

/-- Adds a piece. -/
def push (p : Ipv6Pieces) (n : Nat) : Ipv6Pieces :=
  match p.after with
  | some after => { p with after := some (n :: after) }
  | none => { p with before := n :: p.before }

/-- The eight pieces of the address. -/
def complete? (p : Ipv6Pieces) : Option (List Nat) :=
  match p.after with
  | some after =>
    some (p.before.reverse ++ List.replicate (8 - p.before.length - after.length) 0
      ++ after.reverse)
  | none => if p.before.length = 8 then some p.before.reverse else none

end Ipv6Pieces

/-- The four bytes of a decimal IPv4 address at the end of an IPv6 address,
    without zeros in front of a byte. -/
def dottedBytes? (cs : List Char) : Option (List Nat) := do
  let parts := Text.splitAtEach '.' cs
  guard (parts.length = 4)
  parts.mapM fun part =>
    if part.isEmpty || 3 < part.length || !part.all Char.isDigit
        || (1 < part.length && part.head? == some '0') then none
    else match digitsIn? 10 part with
      | some n => if n ≤ 255 then some n else none
      | none => none

/-- The pieces from the front of a text on; `fuel` bounds their number. -/
def ipv6From (cs : List Char) (p : Ipv6Pieces) : (fuel : Nat) → Option (List Nat)
  | 0 => none
  | fuel + 1 =>
    match cs with
    | [] => p.complete?
    | ':' :: rest =>
      if p.count < 8 ∧ p.after.isNone then ipv6From rest { p with after := some [] } fuel else none
    | cs =>
      if 8 ≤ p.count then none
      else
        let digits := (cs.take 4).takeWhile fun c => (hexDigit? c).isSome
        let value := (digitsIn? 16 digits).getD 0
        match cs.drop digits.length with
        | [] => ipv6From [] (p.push value) fuel
        | '.' :: _ =>
          if digits.isEmpty ∨ 6 < p.count then none
          else match dottedBytes? cs with
            | some [a, b, c, d] => ((p.push (a * 256 + b)).push (c * 256 + d)).complete?
            | _ => none
        | ':' :: rest =>
          if rest.isEmpty then none else ipv6From rest (p.push value) fuel
        | _ => none

/-- The pieces of an IPv6 address. -/
def ipv6? (cs : List Char) : Option (List Nat) :=
  match cs with
  | ':' :: ':' :: rest => ipv6From rest { after := some [] } (cs.length + 2)
  | [] | ':' :: _ => none
  | cs => ipv6From cs {} (cs.length + 2)

/-- The start and the length of the longest run of zeros, the first of equal ones. -/
def longestZeroRun (pieces : List Nat) : Nat × Nat :=
  let runs := (List.range pieces.length).map fun i =>
    (i, ((pieces.drop i).takeWhile (· == 0)).length)
  runs.foldl (fun best run => if best.2 < run.2 then run else best) (0, 0)

/-- A piece in lower-case hexadecimal digits. -/
def pieceText (n : Nat) : String := .ofList (Nat.toDigits 16 n)

/-- The text of an IPv6 address, with its longest run of two or more zeros left out. -/
def ipv6Text (pieces : List Nat) : String :=
  let (start, length) := longestZeroRun pieces
  let join (ps : List Nat) := ":".intercalate (ps.map pieceText)
  if length < 2 then join pieces
  else join (pieces.take start) ++ "::" ++ join (pieces.drop (start + length))

end ResourceClient.Url
