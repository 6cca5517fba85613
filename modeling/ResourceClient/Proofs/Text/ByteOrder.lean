import Mathlib

/-! # Texts are ordered by their bytes

    Texts are compared character by character, and they are written as UTF-8
    bytes.  Comparing the bytes comes to the same (`lt_iff_bytes_lt`), so that
    it does not matter which of the two a sorted list of texts is sorted by.

    The bytes of a character are the digits of its code point in base 64,
    behind a mark that tells how many there are and that grows with their
    number.  So a smaller character is smaller in the first byte that
    differs, whatever stands behind the two (`utf8EncodeChar_append_lt`). -/

namespace ResourceClient.Text

/-- The bytes that a text is written as. -/
def bytes (s : String) : List UInt8 := s.toUTF8.data.toList

theorem bytes_eq_flatMap (s : String) : bytes s = s.toList.flatMap String.utf8EncodeChar := by
  rw [bytes, String.toUTF8_eq_toByteArray, ← String.ofList_toList (s := s),
    String.toByteArray_ofList, String.toList_ofList]
  exact List.toList_data_toByteArray

/-! ## The bytes of characters -/

theorem ofNat_lt_ofNat_iff {m n : Nat} (hm : m < 256) (hn : n < 256) :
    UInt8.ofNat m < UInt8.ofNat n ↔ m < n := by
  rw [UInt8.lt_iff_toNat_lt, UInt8.toNat_ofNat', UInt8.toNat_ofNat', Nat.mod_eq_of_lt hm,
    Nat.mod_eq_of_lt hn]

theorem ofNat_eq_ofNat_iff {m n : Nat} (hm : m < 256) (hn : n < 256) :
    UInt8.ofNat m = UInt8.ofNat n ↔ m = n := by
  rw [← UInt8.toNat_inj, UInt8.toNat_ofNat', UInt8.toNat_ofNat', Nat.mod_eq_of_lt hm,
    Nat.mod_eq_of_lt hn]

/-- Numbers of four digits in base 64 are compared from the first digit on. -/
theorem digits_lt {m n : Nat} (h : m < n) :
    m / 262144 < n / 262144 ∨ m / 262144 = n / 262144 ∧
      (m / 4096 % 64 < n / 4096 % 64 ∨ m / 4096 % 64 = n / 4096 % 64 ∧
        (m / 64 % 64 < n / 64 % 64 ∨ m / 64 % 64 = n / 64 % 64 ∧ m % 64 < n % 64)) := by
  have hdigit {m n : Nat} (h : m < n) : m / 64 < n / 64 ∨ m / 64 = n / 64 ∧ m % 64 < n % 64 := by
    omega
  have hsecond (k : Nat) : k / 64 / 64 = k / 4096 := Nat.div_div_eq_div_mul k 64 64
  have hthird (k : Nat) : k / 4096 / 64 = k / 262144 := Nat.div_div_eq_div_mul k 4096 64
  rcases hdigit h with hrest | ⟨hsame, hlast⟩
  · rcases hdigit hrest with hrest | ⟨hsame, hlast⟩
    · rw [hsecond, hsecond] at hrest
      rcases hdigit hrest with hfirst | ⟨hsame, hlast⟩
      · rw [hthird, hthird] at hfirst
        exact Or.inl hfirst
      · rw [hthird, hthird] at hsame
        exact Or.inr ⟨hsame, Or.inl hlast⟩
    · rw [hsecond, hsecond] at hsame
      rw [← hthird, ← hthird, hsame]
      exact Or.inr ⟨rfl, Or.inr ⟨rfl, Or.inl hlast⟩⟩
  · rw [← hthird, ← hthird, ← hsecond, ← hsecond, hsame]
    exact Or.inr ⟨rfl, Or.inr ⟨rfl, Or.inr ⟨rfl, hlast⟩⟩⟩

/-- A smaller character is written as smaller bytes, whatever follows. -/
theorem utf8EncodeChar_append_lt {c d : Char} (h : c < d) (xs ys : List UInt8) :
    String.utf8EncodeChar c ++ xs < String.utf8EncodeChar d ++ ys := by
  have hlt : c.val.toNat < d.val.toNat := h
  have hmax : d.val.toNat < 0x110000 := by
    have hvalid := d.valid
    unfold UInt32.isValidChar Nat.isValidChar at hvalid
    omega
  unfold String.utf8EncodeChar
  dsimp only
  generalize c.val.toNat = m at *
  generalize d.val.toNat = n at *
  have hfirst {k : Nat} (hk : k < 0x110000) : k / 262144 % 8 = k / 262144 :=
    Nat.mod_eq_of_lt (by omega)
  have hdigits := digits_lt hlt
  rw [hfirst (hlt.trans hmax), hfirst hmax]
  -- one case for each pair of lengths
  split_ifs <;>
    simp (disch := omega) only [List.cons_append, List.nil_append, List.cons_lt_cons_iff,
      ofNat_lt_ofNat_iff, ofNat_eq_ofNat_iff] <;>
    omega

/-! ## The bytes of texts -/

theorem flatMap_utf8EncodeChar_lt {cs ds : List Char} (h : cs < ds) :
    cs.flatMap String.utf8EncodeChar < ds.flatMap String.utf8EncodeChar := by
  induction h with
  | @nil d ds =>
    obtain ⟨first, rest, hcons⟩ :=
      List.exists_cons_of_ne_nil (String.utf8EncodeChar_ne_nil (c := d))
    rw [List.flatMap_cons, hcons]
    exact List.nil_lt_cons _ _
  | @rel c cs d ds hlt =>
    rw [List.flatMap_cons, List.flatMap_cons]
    exact utf8EncodeChar_append_lt hlt _ _
  | @cons c cs ds _ ih =>
    rw [List.flatMap_cons, List.flatMap_cons]
    exact List.append_left_lt ih

/-- Texts are ordered as their bytes are. -/
theorem lt_iff_bytes_lt {s t : String} : s < t ↔ bytes s < bytes t := by
  have hbytes {s t : String} (h : s < t) : bytes s < bytes t := by
    rw [bytes_eq_flatMap, bytes_eq_flatMap]
    exact flatMap_utf8EncodeChar_lt (String.lt_iff_toList_lt.1 h)
  refine ⟨hbytes, fun h => ?_⟩
  rcases lt_trichotomy s t with hlt | rfl | hgt
  · exact hlt
  · exact absurd h (List.lt_irrefl _)
  · exact absurd h (List.lt_asymm (hbytes hgt))

theorem le_iff_bytes_le {s t : String} : s ≤ t ↔ bytes s ≤ bytes t := by
  rw [← not_lt, lt_iff_bytes_lt]
  exact List.not_lt

end ResourceClient.Text
