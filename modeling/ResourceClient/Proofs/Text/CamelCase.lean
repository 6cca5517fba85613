import Mathlib
import ResourceClient.Text.CamelCase

/-! # Camel case is final

    Writing a name in camel case removes every underscore behind its first
    character, and a name without such underscores stays as it is.  So the
    camel case of a name is its own camel case (`camelCase_camelCase`).

    What has to be seen is that no underscore is put in again: no character
    has one in its upper case (`underscore_notMem_upper`).  The tables are
    gone through for this once, by looking for the code points that would
    be moved to the underscore. -/

namespace ResourceClient.Text

/-! ## Upper case has no underscores -/

theorem eq_of_ofNat_eq_underscore {code : Nat} (h : Char.ofNat code = '_') :
    code = '_'.toNat := by
  by_cases hvalid : code.isValidChar
  · rw [← h, Char.ofNat, dif_pos hvalid]
    rfl
  · rw [Char.ofNat, dif_neg hvalid] at h
    exact absurd h (by decide)

/-- No span holds the code point that it would move to the underscore. -/
theorem simpleSpans_avoid_underscore :
    ∀ s ∈ simpleSpans, s.holds (('_'.toNat : Int) - s.shift).toNat = false := by
  decide +kernel

theorem expansions_avoid_underscore : ∀ e ∈ expansions, '_'.toNat ∉ e.2 := by
  decide +kernel

/-- Moving by a span does not lead to the underscore. -/
theorem move_ne_underscore {s : ShiftSpan} (hs : s ∈ simpleSpans) {c : Char}
    (hholds : s.holds c.toNat = true) : s.move c ≠ '_' := by
  intro hmove
  have hcode : ((c.toNat : Int) + s.shift).toNat = '_'.toNat := eq_of_ofNat_eq_underscore hmove
  have hback : (('_'.toNat : Int) - s.shift).toNat = c.toNat := by
    have hpos : 0 < '_'.toNat := by decide
    omega
  have havoids := simpleSpans_avoid_underscore s hs
  rw [hback, hholds] at havoids
  cases havoids

/-- Only the underscore has one in its upper case. -/
theorem underscore_notMem_upper {c : Char} (hc : c ≠ '_') : '_' ∉ upper c := by
  unfold upper
  cases hmoved : moved? simpleSpans c with
  | some raised =>
    obtain ⟨s, hfind, rfl⟩ := Option.map_eq_some_iff.1 hmoved
    have hholds : s.holds c.toNat = true := by
      simpa only using List.find?_some hfind
    have hmove := move_ne_underscore (List.mem_of_find?_eq_some hfind) hholds
    simpa using hmove.symm
  | none =>
    cases hexpansion : expansions.lookup c.toNat with
    | some codes =>
      obtain ⟨before, after, hsplit, -⟩ := List.lookup_eq_some_iff.1 hexpansion
      have hmem : (c.toNat, codes) ∈ expansions := by
        rw [hsplit]
        simp
      intro hraised
      obtain ⟨code, hcode, hchar⟩ := List.mem_map.1 hraised
      rw [eq_of_ofNat_eq_underscore hchar] at hcode
      exact expansions_avoid_underscore _ hmem hcode
    | none => simpa using hc.symm

/-! ## Names without underscores -/

/-- The characters behind the first one have no underscores left. -/
theorem underscore_notMem_camelTail (raised : Bool) (cs : List Char) :
    '_' ∉ camelTail raised cs := by
  induction cs generalizing raised with
  | nil => simp [camelTail]
  | cons c rest ih =>
    rw [camelTail]
    by_cases hc : c = '_'
    · rw [if_pos hc]
      exact ih true
    · rw [if_neg hc, List.mem_append, not_or]
      refine ⟨?_, ih false⟩
      cases raised with
      | true => exact underscore_notMem_upper hc
      | false => simpa using Ne.symm hc

/-- Without underscores nothing is left to do. -/
theorem camelTail_of_notMem {cs : List Char} (h : '_' ∉ cs) : camelTail false cs = cs := by
  induction cs with
  | nil => rfl
  | cons c rest ih =>
    rw [List.mem_cons, not_or] at h
    rw [camelTail, if_neg (Ne.symm h.1), ih h.2]
    rfl

theorem camelChars_camelChars (cs : List Char) : camelChars (camelChars cs) = camelChars cs := by
  cases cs with
  | nil => rfl
  | cons c rest =>
    rw [camelChars, camelChars, camelTail_of_notMem (underscore_notMem_camelTail false rest)]

/-- Behind the first character of a name in camel case are no underscores. -/
theorem underscore_notMem_tail_camelCase (name : String) :
    '_' ∉ (camelCase name).toList.tail := by
  unfold camelCase
  rw [String.toList_ofList]
  cases name.toList with
  | nil => exact List.not_mem_nil
  | cons c rest => exact underscore_notMem_camelTail false rest

/-- The camel case of a name is its own camel case. -/
@[simp] theorem camelCase_camelCase (name : String) :
    camelCase (camelCase name) = camelCase name := by
  unfold camelCase
  rw [String.toList_ofList, camelChars_camelChars]

end ResourceClient.Text
