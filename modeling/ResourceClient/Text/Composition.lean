import ResourceClient.Text.Composition.Table

/-! # Composed texts

    Two texts may look the same and differ in how marks are written: `é` is
    one character, or an `e` with a mark after it.  The composed form of a
    text is the same for both.  It is found in three steps: every character
    is taken apart, the marks after a character are put in the order of
    their classes, and what can be put together is put together again.
    Korean syllables are taken apart and put together by arithmetic. -/

namespace ResourceClient.Text

/-- A character that stands for a pair of others. -/
structure Composite where
  /-- The character. -/
  whole : Nat
  /-- The first of the pair. -/
  first : Nat
  /-- The second. -/
  second : Nat

/-- The characters that stand for pairs. -/
def composites : List Composite :=
  (entries compositeRows).map fun e =>
    ⟨e.code, (e.data.headD 0).toNat, ((e.data.drop 1).headD 0).toNat⟩

/-- The marks with their classes. -/
def classes : List CodeRange := ranges classRows

/-- The class of a character, which is zero unless it is a mark that moves. -/
def combiningClass (c : Char) : Nat :=
  if c.toNat < 0x300 then 0 else (valueIn? classes c.toNat).getD 0

/-! ## Korean syllables -/

namespace Hangul

/-- The first leading consonant. -/
def leads : Nat := 0x1100

/-- The first vowel. -/
def vowels : Nat := 0x1161

/-- The place before the first trailing consonant. -/
def trails : Nat := 0x11a7

/-- The first syllable. -/
def syllables : Nat := 0xac00

/-- How many vowels there are. -/
def vowelCount : Nat := 21

/-- How many trailing consonants there are, none included. -/
def trailCount : Nat := 28

/-- How many syllables there are. -/
def syllableCount : Nat := 11172

/-- The letters of a syllable. -/
def letters? (code : Nat) : Option (List Nat) :=
  if syllables ≤ code ∧ code < syllables + syllableCount then
    let i := code - syllables
    let lead := leads + i / (vowelCount * trailCount)
    let vowel := vowels + i / trailCount % vowelCount
    some (if i % trailCount = 0 then [lead, vowel] else [lead, vowel, trails + i % trailCount])
  else none

/-- The syllable that two letters make, or a syllable and a trailing consonant. -/
def join? (a b : Nat) : Option Nat :=
  if leads ≤ a ∧ a < leads + 19 ∧ vowels ≤ b ∧ b < vowels + vowelCount then
    some (syllables + ((a - leads) * vowelCount + (b - vowels)) * trailCount)
  else if syllables ≤ a ∧ a < syllables + syllableCount ∧ (a - syllables) % trailCount = 0
      ∧ trails < b ∧ b < trails + trailCount then
    some (a + (b - trails))
  else none

end Hangul

/-! ## Taking apart -/

/-- How often a character can be taken apart in turn. -/
def maxDepth : Nat := 4

/-- What a character consists of. -/
def decompose : (depth : Nat) → Nat → List Nat
  | 0, code => [code]
  | depth + 1, code =>
    match Hangul.letters? code with
    | some letters => letters
    | none =>
      match composites.find? (·.whole == code) with
      | some c => decompose depth c.first ++ [c.second]
      | none => [code]

/-- Puts a character in front of others, behind marks of smaller classes if it is a mark. -/
def insertMark (c : Char) : List Char → List Char
  | [] => [c]
  | d :: rest =>
    if combiningClass d ≠ 0 ∧ combiningClass d < combiningClass c then d :: insertMark c rest
    else c :: d :: rest

/-- The characters of a text taken apart, marks in the order of their classes. -/
def decomposed (cs : List Char) : List Char :=
  (cs.flatMap fun c => (decompose maxDepth c.toNat).map Char.ofNat).foldr insertMark []

/-! ## Putting together -/

/-- The character that two others make. -/
def join? (a b : Char) : Option Char :=
  match Hangul.join? a.toNat b.toNat with
  | some code => some (Char.ofNat code)
  | none =>
    (composites.find? fun c => c.first == a.toNat && c.second == b.toNat).map
      fun c => Char.ofNat c.whole

/-- Puts together a character and what follows it.  `held` are the marks after
    it that could not be joined, the last one first.  A mark is joined unless
    one of its class or a higher one stands between. -/
def composeAfter (base : Char) (held : List Char) : List Char → List Char
  | [] => base :: held.reverse
  | c :: rest =>
    let blocked := match held with
      | [] => false
      | d :: _ => combiningClass c ≤ combiningClass d
    match if blocked then none else join? base c with
    | some whole => composeAfter whole held rest
    | none =>
      if combiningClass c = 0 then base :: held.reverse ++ composeAfter c [] rest
      else composeAfter base (c :: held) rest

/-- Puts characters together that were taken apart. -/
def compose : List Char → List Char
  | [] => []
  | c :: rest => if combiningClass c = 0 then composeAfter c [] rest else c :: compose rest

/-- The composed form of a text. -/
def composed (cs : List Char) : List Char :=
  if cs.all (·.toNat < 0x300) then cs else compose (decomposed cs)

example : Hangul.letters? 0xac01 = some [0x1100, 0x1161, 0x11a8] := by decide
example : Hangul.join? 0x1100 0x1161 = some 0xac00 := by decide
example : Hangul.join? 0xac00 0x11a8 = some 0xac01 := by decide

end ResourceClient.Text
