/-! # Punycode

    A label of a domain name that holds characters outside ASCII is written
    in ASCII alone: first its ASCII characters in order, and then, as
    numbers, where the other characters are to be inserted among them.  The
    insertions go by code point and then by place.  Each is the distance
    from the one before on a scale that counts the places of every code
    point in turn, written in base 36 with digits whose ranges adapt to the
    distances seen so far. -/

namespace ResourceClient.Url.Punycode

/-- A digit of base 36: a small letter or, from 26 on, a decimal digit. -/
def digit (n : Nat) : Char :=
  if n < 26 then Char.ofNat (n + 'a'.toNat) else Char.ofNat (n - 26 + '0'.toNat)

/-- The value of a digit. -/
def digit? (c : Char) : Option Nat :=
  if 'a' ≤ c ∧ c ≤ 'z' then some (c.toNat - 'a'.toNat)
  else if 'A' ≤ c ∧ c ≤ 'Z' then some (c.toNat - 'A'.toNat)
  else if '0' ≤ c ∧ c ≤ '9' then some (c.toNat - '0'.toNat + 26)
  else none

/-- The least value with which the digit at `position`, a multiple of 36, is not the last one. -/
def threshold (bias position : Nat) : Nat := min 26 (max 1 (position - bias))

theorem threshold_pos (bias position : Nat) : 1 ≤ threshold bias position := by
  unfold threshold; omega

/-! ## Adapting -/

/-- Divides a distance until it is small. -/
def settle (distance bias : Nat) : Nat :=
  if 455 < distance then settle (distance / 35) (bias + 36)
  else bias + 36 * distance / (distance + 38)
termination_by distance
decreasing_by exact Nat.div_lt_self (by omega) (by omega)

/-- The bias after a distance, with `size` characters in place. -/
def adapt (distance size : Nat) (first : Bool) : Nat :=
  let damped := if first then distance / 700 else distance / 2
  settle (damped + damped / size) 0

/-! ## States -/

/-- The code point that ASCII ends before. -/
def firstCode : Nat := 0x80

/-- What is known between two insertions. -/
structure State where
  /-- The code point inserted last. -/
  code : Nat := firstCode
  /-- The place after it. -/
  place : Nat := 0
  /-- How many characters are in place. -/
  size : Nat
  /-- How the digits are read. -/
  bias : Nat := 72
  /-- Whether nothing was inserted yet. -/
  first : Bool := true

/-- The state after a character was inserted at a distance from the one before. -/
def State.inserted (s : State) (distance code place : Nat) : State where
  code
  place := place + 1
  size := s.size + 1
  bias := adapt distance (s.size + 1) s.first
  first := false

/-! ## Writing -/

/-- The digits of a number. -/
def digits (bias position n : Nat) : List Char :=
  let t := threshold bias position
  if n < t then [digit n]
  else digit (t + (n - t) % (36 - t)) :: digits bias (position + 36) ((n - t) / (36 - t))
termination_by n
decreasing_by
  have low := threshold_pos bias position
  have quotient := Nat.div_le_self (n - threshold bias position) (36 - threshold bias position)
  omega

/-- Where the characters with a code point are inserted among those with smaller
    ones and those of their own that stand before them. -/
def placesOf (code : Nat) : (before : Nat) → List Char → List Nat
  | _, [] => []
  | before, c :: rest =>
    if c.toNat = code then before :: placesOf code (before + 1) rest
    else placesOf code (if c.toNat < code then before + 1 else before) rest

/-- The code points outside ASCII in increasing order, each once. -/
def codes (cs : List Char) : List Nat :=
  (((cs.map Char.toNat).filter (firstCode ≤ ·)).mergeSort (· ≤ ·)).eraseDups

/-- Writes insertions, given by code point and place. -/
def writeInsertions (s : State) : List (Nat × Nat) → List Char
  | [] => []
  | (code, place) :: rest =>
    let distance := (code - s.code) * (s.size + 1) + place - s.place
    digits s.bias 36 distance ++ writeInsertions (s.inserted distance code place) rest

/-- Writes a label in ASCII. -/
def encode (cs : List Char) : List Char :=
  let basic := cs.filter (·.toNat < firstCode)
  let insertions := (codes cs).flatMap fun code => (placesOf code 0 cs).map (code, ·)
  basic ++ (if basic.isEmpty then [] else ['-'])
    ++ writeInsertions { size := basic.length } insertions

/-! ## Reading -/

/-- Reads a number from the front of a text; also what follows it. -/
def readDigits (bias : Nat) : (position weight n : Nat) → List Char → Option (Nat × List Char)
  | _, _, _, [] => none
  | position, weight, n, c :: rest => do
    let d ← digit? c
    let t := threshold bias position
    if d < t then return (n + d * weight, rest)
    else readDigits bias (position + 36) (weight * (36 - t)) (n + d * weight) rest

theorem length_readDigits_lt {bias position weight n : Nat} {cs : List Char}
    {r : Nat × List Char} (h : readDigits bias position weight n cs = some r) :
    r.2.length < cs.length := by
  induction cs generalizing position weight n with
  | nil => simp [readDigits] at h
  | cons c rest ih =>
    simp only [readDigits, Option.bind_eq_bind, Option.bind_eq_some_iff] at h
    obtain ⟨d, _, h⟩ := h
    split at h
    · simp only [pure, Option.some.injEq] at h
      subst h
      simp
    · exact Nat.lt_succ_of_lt (ih h)

/-- The character with a code point, if there is one. -/
def scalar? (code : Nat) : Option Char :=
  if code.isValidChar then some (Char.ofNat code) else none

/-- Reads insertions and makes them. -/
def readInsertions (s : State) (acc : List Char) (cs : List Char) : Option (List Char) :=
  if cs.isEmpty then some acc
  else
    match _h : readDigits s.bias 36 1 0 cs with
    | none => none
    | some (distance, rest) =>
      let reached := s.place + distance
      let code := s.code + reached / (s.size + 1)
      let place := reached % (s.size + 1)
      match scalar? code with
      | none => none
      | some c => readInsertions (s.inserted distance code place) (acc.insertIdx place c) rest
termination_by cs.length
decreasing_by exact length_readDigits_lt _h

/-- Splits a text at its last hyphen, if it has one: what is before it, and what is after it. -/
def splitAtLastHyphen (cs : List Char) : List Char × List Char :=
  let after := (cs.reverse.takeWhile (· != '-')).reverse
  (cs.take (cs.length - after.length - 1), after)

/-- Reads a label that was written in ASCII. -/
def decode? (cs : List Char) : Option (List Char) :=
  let (basic, rest) := splitAtLastHyphen cs
  if basic.all (·.toNat < firstCode) then readInsertions { size := basic.length } basic rest
  else none

example : encode "bücher".toList = "bcher-kva".toList := by cbv
example : decode? "bcher-kva".toList = some "bücher".toList := by cbv
example : encode "日本語".toList = "wgv71a119e".toList := by cbv

end ResourceClient.Url.Punycode
