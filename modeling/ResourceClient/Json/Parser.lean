import ResourceClient.Decimal.Reading
import ResourceClient.Json.Value

/-! # Reading JSON text

    One value with blanks around it.  Every reading step hands on what is
    left of the text together with a proof that it is shorter, so the
    recursion ends with the text.  Arrays and objects may be nested 127
    deep.  Of members with the same key the last one counts. -/

namespace ResourceClient.Json

/-- Why a text is not a JSON value. -/
inductive Fault where
  /-- The text ends inside a value. -/
  | unexpectedEnd
  /-- A character that nothing can start or go on with. -/
  | unexpected (c : Char)
  /-- Characters after the value. -/
  | trailing
  /-- A control character that is not escaped. -/
  | control
  /-- A reverse solidus before something that is no escape. -/
  | escape
  /-- Half of a surrogate pair. -/
  | surrogate
  /-- A number too large for a finite floating point number. -/
  | outOfRange
  /-- Too many arrays and objects inside one another. -/
  | tooDeep
  /-- Bytes that are not UTF-8. -/
  | notUtf8
  deriving DecidableEq, Repr

/-- The text of a fault. -/
def Fault.message : Fault → String
  | unexpectedEnd => "unexpected end of text"
  | unexpected c => "unexpected character " ++ String.singleton c
  | trailing => "trailing characters"
  | control => "control character inside a string"
  | escape => "invalid escape"
  | surrogate => "lone surrogate"
  | outOfRange => "number out of range"
  | tooDeep => "nested too deeply"
  | notUtf8 => "invalid UTF-8"

/-- Something read off the front of a text, and what is left. -/
structure Read (α : Type) (text : List Char) where
  /-- What was read. -/
  value : α
  /-- The characters after it. -/
  rest : List Char
  /-- At least one character was read. -/
  shorter : rest.length < text.length

/-- A reading counted from an earlier place. -/
def Read.since {α : Type} {text earlier : List Char} (r : Read α text)
    (h : text.length ≤ earlier.length) : Read α earlier :=
  ⟨r.value, r.rest, Nat.lt_of_lt_of_le r.shorter h⟩

/-- The blanks between the parts of a value. -/
def isBlank (c : Char) : Bool := c == ' ' || c == '\t' || c == '\n' || c == '\r'

/-- What follows the blanks at the front. -/
def skipBlanks (text : List Char) : List Char := text.dropWhile isBlank

theorem length_skipBlanks_le (text : List Char) : (skipBlanks text).length ≤ text.length :=
  (List.dropWhile_suffix isBlank).length_le

/-! ## Strings -/

/-- The value of a hexadecimal digit. -/
def hexValue? (c : Char) : Option Nat :=
  if '0' ≤ c ∧ c ≤ '9' then some (c.toNat - '0'.toNat)
  else if 'a' ≤ c ∧ c ≤ 'f' then some (c.toNat - 'a'.toNat + 10)
  else if 'A' ≤ c ∧ c ≤ 'F' then some (c.toNat - 'A'.toNat + 10)
  else none

/-- The value of four hexadecimal digits. -/
def hexWord? (a b c d : Char) : Option Nat := do
  let a ← hexValue? a
  let b ← hexValue? b
  let c ← hexValue? c
  let d ← hexValue? d
  return ((a * 16 + b) * 16 + c) * 16 + d

/-- The character of a one-letter escape. -/
def escaped? : Char → Option Char
  | '"' => some '"'
  | '\\' => some '\\'
  | '/' => some '/'
  | 'b' => some '\x08'
  | 'f' => some '\x0c'
  | 'n' => some '\n'
  | 'r' => some '\r'
  | 't' => some '\t'
  | _ => none

/-- The four digits of a `\u` escape, whose first two characters are already read. -/
def readWord (text : List Char) : Except Fault (Read Nat text) :=
  match text with
  | a :: b :: c :: d :: rest =>
    match hexWord? a b c d with
    | some n => .ok ⟨n, rest, by simp; omega⟩
    | none => .error .escape
  | _ => .error .unexpectedEnd

/-- The character of a `\u` escape; two escapes of a surrogate pair are one character. -/
def readEscapedChar (text : List Char) : Except Fault (Read Char text) := do
  let first ← readWord text
  if first.value < 0xD800 ∨ 0xE000 ≤ first.value then
    return ⟨Char.ofNat first.value, first.rest, first.shorter⟩
  else if 0xDC00 ≤ first.value then .error .surrogate
  else
    match h : first.rest with
    | '\\' :: 'u' :: after =>
      let second ← readWord after
      if 0xDC00 ≤ second.value ∧ second.value < 0xE000 then
        let code := 0x10000 + (first.value - 0xD800) * 0x400 + (second.value - 0xDC00)
        return ⟨Char.ofNat code, second.rest, by
          have := first.shorter
          have := second.shorter
          simp only [h, List.length_cons] at *
          omega⟩
      else .error .surrogate
    | _ => .error .surrogate

/-- Appends the characters of a string, up to its closing quotation mark, to
    `acc`; also what follows the mark. -/
def stringAfter (acc : String) (text : List Char) : Except Fault (String × List Char) :=
  match text with
  | [] => .error .unexpectedEnd
  | '"' :: rest => .ok (acc, rest)
  | '\\' :: 'u' :: rest =>
    match readEscapedChar rest with
    | .error fault => .error fault
    | .ok c =>
      have _shorter := c.shorter
      stringAfter (acc.push c.value) c.rest
  | '\\' :: c :: rest =>
    match escaped? c with
    | none => .error .escape
    | some c => stringAfter (acc.push c) rest
  | c :: rest =>
    if c.toNat < 0x20 then .error .control
    else stringAfter (acc.push c) rest
termination_by text.length
decreasing_by all_goals (simp only [List.length_cons]; omega)

theorem length_stringAfter_lt {acc : String} {text : List Char} {r : String × List Char}
    (h : stringAfter acc text = .ok r) : r.2.length < text.length := by
  fun_induction stringAfter acc text with
  | case1 => cases h
  | case2 acc rest =>
    obtain rfl := Except.ok.inj h
    exact Nat.lt_succ_self _
  | case3 => cases h
  | case4 acc rest c _ shorter ih =>
    have := ih h
    simp only [List.length_cons]
    omega
  | case5 => cases h
  | case6 acc _ rest _ c _ ih =>
    have := ih h
    simp only [List.length_cons]
    omega
  | case7 => cases h
  | case8 acc c rest _ _ _ _ ih =>
    have := ih h
    simp only [List.length_cons]
    omega

/-- The characters of a string up to its closing quotation mark. -/
def readString (text : List Char) : Except Fault (Read String text) :=
  match h : stringAfter "" text with
  | .error fault => .error fault
  | .ok r => .ok ⟨r.1, r.2, length_stringAfter_lt h⟩

/-! ## Numbers -/

/-- The value of a decimal digit. -/
def digit? (c : Char) : Option Nat :=
  if '0' ≤ c ∧ c ≤ '9' then some (c.toNat - '0'.toNat) else none

/-- The digits at the front, and what follows them. -/
def spanDigits : List Char → List Nat × List Char
  | [] => ([], [])
  | c :: rest =>
    match digit? c with
    | none => ([], c :: rest)
    | some d => ((d :: (spanDigits rest).1), (spanDigits rest).2)

theorem length_spanDigits_le (text : List Char) :
    (spanDigits text).2.length ≤ text.length := by
  induction text with
  | nil => simp [spanDigits]
  | cons c rest ih =>
    rw [spanDigits]
    split
    · exact Nat.le_refl _
    · exact Nat.le_succ_of_le ih

theorem length_spanDigits_lt {text : List Char} (h : (spanDigits text).1 ≠ []) :
    (spanDigits text).2.length < text.length := by
  cases text with
  | nil => simp [spanDigits] at h
  | cons c rest =>
    rw [spanDigits] at h ⊢
    split
    · next none => simp [none] at h
    · exact Nat.lt_succ_of_le (length_spanDigits_le rest)

/-- What is missing where a digit is expected. -/
def digitExpected : List Char → Fault
  | [] => .unexpectedEnd
  | c :: _ => .unexpected c

/-- One digit or more. -/
def readDigits (text : List Char) : Except Fault (Read (List Nat) text) :=
  if h : (spanDigits text).1 = [] then .error (digitExpected text)
  else .ok ⟨(spanDigits text).1, (spanDigits text).2, length_spanDigits_lt h⟩

/-- The digits before the point: a zero stands alone. -/
def readWhole (text : List Char) : Except Fault (Read (List Nat) text) := do
  let digits ← readDigits text
  match digits.value with
  | 0 :: _ :: _ => .error (.unexpected '0')
  | _ => return digits

/-- A part that may be absent, and what is left after it. -/
structure Optionally (α : Type) (text : List Char) where
  /-- The part, if it is there. -/
  value : Option α
  /-- The characters after it. -/
  rest : List Char
  /-- Nothing was put back. -/
  noLonger : rest.length ≤ text.length

/-- The point and the digits after it. -/
def readFraction (text : List Char) : Except Fault (Optionally (List Nat) text) :=
  match text with
  | '.' :: rest => do
    let digits ← readDigits rest
    return ⟨some digits.value, digits.rest, by have := digits.shorter; simp; omega⟩
  | text => .ok ⟨none, text, Nat.le_refl _⟩

/-- The exponent after its mark: whether it is negative, and its digits. -/
def readPower (text : List Char) : Except Fault (Read (Bool × List Nat) text) :=
  match text with
  | '-' :: rest => do
    let digits ← readDigits rest
    return ⟨(true, digits.value), digits.rest, by have := digits.shorter; simp; omega⟩
  | '+' :: rest => do
    let digits ← readDigits rest
    return ⟨(false, digits.value), digits.rest, by have := digits.shorter; simp; omega⟩
  | text => do
    let digits ← readDigits text
    return ⟨(false, digits.value), digits.rest, digits.shorter⟩

/-- The mark of an exponent and the exponent. -/
def readExponent (text : List Char) : Except Fault (Optionally (Bool × List Nat) text) :=
  match text with
  | c :: rest =>
    if c = 'e' ∨ c = 'E' then do
      let power ← readPower rest
      return ⟨some power.value, power.rest, by have := power.shorter; simp; omega⟩
    else .ok ⟨none, c :: rest, Nat.le_refl _⟩
  | [] => .ok ⟨none, [], Nat.le_refl _⟩

/-- A number after its sign. -/
def readUnsigned (negative : Bool) (text : List Char) : Except Fault (Read Json text) := do
  let whole ← readWhole text
  let fraction ← readFraction whole.rest
  let exponent ← readExponent fraction.rest
  match (Decimal.Literal.mk negative whole.value fraction.value exponent.value).value? with
  | none => .error .outOfRange
  | some n =>
    let value := match n with
      | .int n => int n
      | .float x => float x
    return ⟨value, exponent.rest, by
      have := whole.shorter
      have := fraction.noLonger
      have := exponent.noLonger
      omega⟩

/-! ## Values -/

/-- A word such as `true`, whose first letter is already read. -/
def readWordOf (value : Json) : (word text : List Char) → Except Fault (Optionally Json text)
  | [], text => .ok ⟨some value, text, Nat.le_refl _⟩
  | _ :: _, [] => .error .unexpectedEnd
  | w :: word, c :: text =>
    if w = c then do
      let r ← readWordOf value word text
      return ⟨r.value, r.rest, by have := r.noLonger; simp; omega⟩
    else .error (.unexpected c)

/-- A word such as `true` as a value. -/
def readConstant (value : Json) (word : String) (c : Char) (rest : List Char) :
    Except Fault (Read Json (c :: rest)) := do
  let r ← readWordOf value word.toList rest
  return ⟨value, r.rest, Nat.lt_succ_of_le r.noLonger⟩

mutual

/-- A value at the front; `depth` more arrays or objects may be opened. -/
def readValue (depth : Nat) (text : List Char) : Except Fault (Read Json text) :=
  match text with
  | [] => .error .unexpectedEnd
  | c :: rest =>
    match c with
    | 'n' => readConstant null "ull" _ rest
    | 't' => readConstant (bool true) "rue" _ rest
    | 'f' => readConstant (bool false) "alse" _ rest
    | '"' =>
      match readString rest with
      | .error fault => .error fault
      | .ok s => .ok ⟨string s.value, s.rest, Nat.lt_succ_of_lt s.shorter⟩
    | '-' =>
      match readUnsigned true rest with
      | .error fault => .error fault
      | .ok n => .ok (n.since (Nat.le_succ _))
    | '[' =>
      match depth with
      | 0 => .error .tooDeep
      | depth + 1 =>
        match h : skipBlanks rest with
        | ']' :: after => .ok ⟨array [], after, by
            have := length_skipBlanks_le rest
            simp only [h, List.length_cons] at *
            omega⟩
        | inner =>
          match readItems depth inner with
          | .error fault => .error fault
          | .ok items => .ok ⟨array items.value, items.rest, by
              have := length_skipBlanks_le rest
              have := items.shorter
              simp only [h, List.length_cons] at *
              omega⟩
    | '\x7b' =>
      match depth with
      | 0 => .error .tooDeep
      | depth + 1 =>
        match h : skipBlanks rest with
        | '\x7d' :: after => .ok ⟨object [], after, by
            have := length_skipBlanks_le rest
            simp only [h, List.length_cons] at *
            omega⟩
        | inner =>
          match readMembers depth inner with
          | .error fault => .error fault
          | .ok members => .ok ⟨ofFields (Fields.ofList members.value), members.rest, by
              have := length_skipBlanks_le rest
              have := members.shorter
              simp only [h, List.length_cons] at *
              omega⟩
    | c =>
      if '0' ≤ c ∧ c ≤ '9' then readUnsigned false (c :: rest)
      else .error (.unexpected c)
termination_by (text.length, 0)
decreasing_by
  all_goals
    have := length_skipBlanks_le rest
    simp_all only [List.length_cons]
    simp [Prod.lex_def]
    omega

/-- The elements of an array, one or more, with the bracket that closes it. -/
def readItems (depth : Nat) (text : List Char) : Except Fault (Read (List Json) text) :=
  match readValue depth text with
  | .error fault => .error fault
  | .ok first =>
    match h : skipBlanks first.rest with
    | ']' :: after => .ok ⟨[first.value], after, by
        have := length_skipBlanks_le first.rest
        have := first.shorter
        simp only [h, List.length_cons] at *
        omega⟩
    | ',' :: after =>
      match readItems depth (skipBlanks after) with
      | .error fault => .error fault
      | .ok items => .ok ⟨first.value :: items.value, items.rest, by
          have := length_skipBlanks_le first.rest
          have := length_skipBlanks_le after
          have := first.shorter
          have := items.shorter
          simp only [h, List.length_cons] at *
          omega⟩
    | c :: _ => .error (.unexpected c)
    | [] => .error .unexpectedEnd
termination_by (text.length, 1)
decreasing_by
  · simp [Prod.lex_def]
  · have := length_skipBlanks_le first.rest
    have := length_skipBlanks_le after
    have := first.shorter
    simp only [h, List.length_cons] at *
    simp [Prod.lex_def]
    omega

/-- The members of an object, one or more, with the brace that closes it. -/
def readMembers (depth : Nat) (text : List Char) :
    Except Fault (Read (List (String × Json)) text) :=
  match text with
  | '"' :: rest =>
    match readString rest with
    | .error fault => .error fault
    | .ok key =>
      match hk : skipBlanks key.rest with
      | ':' :: named =>
        match readValue depth (skipBlanks named) with
        | .error fault => .error fault
        | .ok first =>
          match h : skipBlanks first.rest with
          | '\x7d' :: after => .ok ⟨[(key.value, first.value)], after, by
              have := length_skipBlanks_le key.rest
              have := length_skipBlanks_le named
              have := length_skipBlanks_le first.rest
              have := key.shorter
              have := first.shorter
              simp only [h, hk, List.length_cons] at *
              omega⟩
          | ',' :: after =>
            match readMembers depth (skipBlanks after) with
            | .error fault => .error fault
            | .ok members => .ok ⟨(key.value, first.value) :: members.value, members.rest, by
                have := length_skipBlanks_le key.rest
                have := length_skipBlanks_le named
                have := length_skipBlanks_le first.rest
                have := length_skipBlanks_le after
                have := key.shorter
                have := first.shorter
                have := members.shorter
                simp only [h, hk, List.length_cons] at *
                omega⟩
          | c :: _ => .error (.unexpected c)
          | [] => .error .unexpectedEnd
      | c :: _ => .error (.unexpected c)
      | [] => .error .unexpectedEnd
  | c :: _ => .error (.unexpected c)
  | [] => .error .unexpectedEnd
termination_by (text.length, 1)
decreasing_by
  · have := length_skipBlanks_le key.rest
    have := length_skipBlanks_le named
    have := key.shorter
    simp only [hk, List.length_cons] at *
    simp [Prod.lex_def]
    omega
  · have := length_skipBlanks_le key.rest
    have := length_skipBlanks_le named
    have := length_skipBlanks_le first.rest
    have := length_skipBlanks_le after
    have := key.shorter
    have := first.shorter
    simp only [h, hk, List.length_cons] at *
    simp [Prod.lex_def]
    omega

end

/-- How deep arrays and objects may be nested. -/
def maxDepth : Nat := 127

/-- The value that a whole text stands for. -/
def parse (text : String) : Except Fault Json := do
  let r ← readValue maxDepth (skipBlanks text.toList)
  match skipBlanks r.rest with
  | [] => return r.value
  | _ :: _ => .error .trailing

/-- The value that bytes stand for; they have to be UTF-8. -/
def parseBytes (bytes : ByteArray) : Except Fault Json :=
  match String.fromUTF8? bytes with
  | some text => parse text
  | none => .error .notUtf8

end ResourceClient.Json
