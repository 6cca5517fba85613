/-! # Binary floating point numbers

    A JSON number with a fraction or an exponent is a 64-bit floating point
    number.  It is kept by its bits, so that two of them can be told apart
    and compared inside proofs; arithmetic goes through `Float`.  The bits
    read as `significand * 2 ^ scale`, and `same` is the numeric comparison,
    under which the two zeros are one number. -/

namespace ResourceClient

/-- A 64-bit binary floating point number, by its bits. -/
structure Binary64 where
  /-- One sign bit, eleven exponent bits, fifty-two fraction bits. -/
  bits : UInt64
  deriving DecidableEq, Repr, Inhabited

namespace Binary64

/-- The number that the processor holds in `x`. -/
def ofFloat (x : Float) : Binary64 := ⟨x.toBits⟩

/-- Whether the sign bit is set. -/
def negative (x : Binary64) : Bool := x.bits.toNat >>> 63 == 1

/-- The biased exponent. -/
def biasedExponent (x : Binary64) : Nat := (x.bits.toNat >>> 52) % 2048

/-- The leading bit of a significand, which is not stored. -/
def hiddenBit : Nat := 0x10000000000000

/-- The stored fraction. -/
def fraction (x : Binary64) : Nat := x.bits.toNat % hiddenBit

/-- The whole significand: the fraction with its leading bit, which small numbers lack. -/
def significand (x : Binary64) : Nat :=
  if x.biasedExponent = 0 then x.fraction else x.fraction + hiddenBit

/-- The power of two that the significand is scaled by. -/
def scale (x : Binary64) : Int := (max x.biasedExponent 1 : Nat) - 1075

/-- Whether the number is one of the two zeros. -/
def isZero (x : Binary64) : Bool := x.bits.toNat % 0x8000000000000000 == 0

/-- Numeric equality of finite numbers: the two zeros are the same number. -/
def same (x y : Binary64) : Bool := x == y || (x.isZero && y.isZero)

theorem same_refl (x : Binary64) : x.same x = true := by simp [same]

theorem same_comm (x y : Binary64) : x.same y = y.same x := by
  unfold same
  rw [Bool.and_comm x.isZero, Bool.beq_comm (a := x)]

theorem same_trans {x y z : Binary64} (hxy : x.same y = true) (hyz : y.same z = true) :
    x.same z = true := by
  simp only [same, Bool.or_eq_true, beq_iff_eq, Bool.and_eq_true] at hxy hyz ⊢
  rcases hxy with rfl | ⟨hx, hy⟩
  · exact hyz
  · rcases hyz with rfl | ⟨-, hz⟩
    · exact Or.inr ⟨hx, hy⟩
    · exact Or.inr ⟨hx, hz⟩

/-- The size of the number as a quotient of natural numbers. -/
def ratio (x : Binary64) : Nat × Nat :=
  if 0 ≤ x.scale then (x.significand <<< x.scale.toNat, 1)
  else (x.significand, 1 <<< (-x.scale).toNat)

end Binary64

end ResourceClient
