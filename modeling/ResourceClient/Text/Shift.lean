/-! # Runs of characters that move

    Mappings of characters often move whole runs of code points by the same
    distance. -/

namespace ResourceClient.Text

/-- Code points `first, first + step, …, last` that move by the same distance. -/
structure ShiftSpan where
  /-- The first code point. -/
  first : Nat
  /-- The last code point. -/
  last : Nat
  /-- The distance of neighbours. -/
  step : Nat
  /-- How far they move. -/
  shift : Int

namespace ShiftSpan

/-- Whether a code point belongs to the span. -/
def holds (s : ShiftSpan) (code : Nat) : Bool :=
  s.first ≤ code && code ≤ s.last && (code - s.first) % s.step == 0

/-- A character moved by the distance of the span. -/
def move (s : ShiftSpan) (c : Char) : Char := Char.ofNat ((c.toNat : Int) + s.shift).toNat

end ShiftSpan

/-- What becomes of a character that belongs to one of the spans. -/
def moved? (spans : List ShiftSpan) (c : Char) : Option Char :=
  (spans.find? (·.holds c.toNat)).map (·.move c)

end ResourceClient.Text
