import Mathlib
import ResourceClient.Json.Parser
import ResourceClient.Json.Printer

/-! # Reading back what was written

    The compact text of a value without floating point numbers reads back as
    that value (`parse_render`), as long as its integers fit 64 bits, the
    keys of its objects are in order, and it is not nested too deeply.

    The text is first given as a list of characters that follows the
    structure of the value (`chars`), without the accumulator that the
    printer carries.  The reader is then followed along that structure. -/

namespace ResourceClient.Json

/-! ## The characters of a text -/

/-- The characters of a string with its quotation marks. -/
def stringChars (s : String) : List Char := '"' :: (s.toList.flatMap escape ++ ['"'])

mutual

/-- The characters of the text of a value. -/
def chars : Json → List Char
  | null => "null".toList
  | bool b => (if b then "true" else "false").toList
  | int n => (toString n).toList
  | float x => (numberLayout.render x).toList
  | string s => stringChars s
  | array items => '[' :: itemsChars true items
  | object entries => '\x7b' :: entriesChars true entries

/-- The characters of the elements that are left of an array. -/
def itemsChars (first : Bool) : List Json → List Char
  | [] => [']']
  | v :: rest => (if first then [] else [',']) ++ chars v ++ itemsChars false rest

/-- The characters of the members that are left of an object. -/
def entriesChars (first : Bool) : List (String × Json) → List Char
  | [] => ['\x7d']
  | (k, v) :: rest =>
    (if first then [] else [',']) ++ stringChars k ++ [':'] ++ chars v ++ entriesChars false rest

end

theorem toList_foldl_push (cs : List Char) (acc : String) :
    (cs.foldl String.push acc).toList = acc.toList ++ cs := by
  induction cs generalizing acc with
  | nil => simp
  | cons c rest ih => simp [ih]

theorem toList_appendString (acc s : String) :
    (appendString acc s).toList = acc.toList ++ stringChars s := by
  have hfold (cs : List Char) (acc : String) :
      (cs.foldl (fun acc c => (escape c).foldl String.push acc) acc).toList =
        acc.toList ++ cs.flatMap escape := by
    induction cs generalizing acc with
    | nil => simp
    | cons c rest ih => simp [ih, toList_foldl_push]
  unfold appendString stringChars
  rw [String.foldl_eq_foldl_toList, String.toList_push, hfold]
  simp

mutual

theorem toList_appendValue (acc : String) : (v : Json) →
    (appendValue acc v).toList = acc.toList ++ chars v
  | null => by simp [appendValue, chars]
  | bool b => by simp [appendValue, chars]
  | int n => by simp [appendValue, chars]
  | float x => by simp [appendValue, chars]
  | string s => by simp [appendValue, chars, toList_appendString]
  | array items => by simp [appendValue, chars, toList_appendItems]
  | object entries => by simp [appendValue, chars, toList_appendEntries]

theorem toList_appendItems (acc : String) (first : Bool) : (items : List Json) →
    (appendItems acc first items).toList = acc.toList ++ itemsChars first items
  | [] => by simp [appendItems, itemsChars]
  | v :: rest => by
    rw [appendItems, toList_appendItems, toList_appendValue]
    cases first <;> simp [itemsChars]

theorem toList_appendEntries (acc : String) (first : Bool) : (entries : List (String × Json)) →
    (appendEntries acc first entries).toList = acc.toList ++ entriesChars first entries
  | [] => by simp [appendEntries, entriesChars]
  | (k, v) :: rest => by
    rw [appendEntries, toList_appendEntries, toList_appendValue]
    cases first <;> simp [entriesChars, toList_appendString]

end

theorem toList_render (v : Json) : v.render.toList = chars v := by
  unfold render
  rw [toList_appendValue]
  rfl

/-! ## Strings -/

theorem hexWord_of_control : ∀ n < 0x20,
    hexWord? '0' '0' (hexDigit (n / 16)) (hexDigit n) = some n := by decide

/-- The escape of a control character without an escape of its own. -/
theorem readEscapedChar_of_control {c : Char} (hc : c.toNat < 0x20) (rest : List Char) :
    ∃ hlt, readEscapedChar ('0' :: '0' :: hexDigit (c.toNat / 16) :: hexDigit c.toNat :: rest) =
      .ok ⟨c, rest, hlt⟩ := by
  have hword := hexWord_of_control c.toNat hc
  refine ⟨by simp; omega, ?_⟩
  unfold readEscapedChar readWord
  simp only [hword, Bind.bind, Except.bind]
  rw [if_pos (Or.inl (by omega))]
  simp only [Char.ofNat_toNat]
  rfl

/-- An escaped character reads back as that character. -/
theorem stringAfter_escape (acc : String) (c : Char) (rest : List Char) :
    stringAfter acc (escape c ++ rest) = stringAfter (acc.push c) rest := by
  unfold escape
  split
  case h_8 _ hquote hback hn hr ht hb hf =>
    -- a character without a letter for it: only control characters are escaped
    by_cases hc : c.toNat < 0x20
    · obtain ⟨hlt, hread⟩ := readEscapedChar_of_control hc rest
      rw [if_pos hc]
      show stringAfter acc ('\\' :: 'u' :: '0' :: '0' :: _ :: _ :: rest) = _
      rw [stringAfter, hread]
    · rw [if_neg hc]
      show stringAfter acc (c :: rest) = _
      rw [stringAfter]
      · rw [if_neg hc]
      all_goals simp_all
  -- a backslash and the letter for the character
  all_goals
    show stringAfter acc ('\\' :: _ :: rest) = _
    rw [stringAfter]
    · rfl
    · simp

theorem stringAfter_flatMap_escape (cs : List Char) (acc : String) (rest : List Char) :
    stringAfter acc (cs.flatMap escape ++ '"' :: rest) = .ok (acc ++ String.ofList cs, rest) := by
  induction cs generalizing acc with
  | nil =>
    show stringAfter acc ('"' :: rest) = _
    rw [stringAfter]
    simp
  | cons c cs ih =>
    rw [List.flatMap_cons, List.append_assoc, stringAfter_escape, ih]
    congr 2
    apply String.toList_injective
    simp

/-- A string reads back. -/
theorem readString_chars (s : String) (rest : List Char) :
    ∃ hlt, readString (s.toList.flatMap escape ++ '"' :: rest) = .ok ⟨s, rest, hlt⟩ := by
  have hafter : stringAfter "" (s.toList.flatMap escape ++ '"' :: rest) = .ok (s, rest) := by
    rw [stringAfter_flatMap_escape]
    simp
  refine ⟨length_stringAfter_lt hafter, ?_⟩
  unfold readString
  split
  · next fault hfault => rw [hafter] at hfault; cases hfault
  · next r hr =>
    rw [hafter] at hr
    cases hr
    rfl

/-! ## Integers -/

/-- The values of digits. -/
def digitValues (cs : List Char) : List Nat := cs.map fun c => c.toNat - '0'.toNat

/-- What may follow a number: nothing that it could go on with. -/
def EndsNumber (rest : List Char) : Prop :=
  ∀ c ∈ rest.head?, digit? c = none ∧ c ≠ '.' ∧ c ≠ 'e' ∧ c ≠ 'E'

theorem le_and_le_of_isDigit {c : Char} (h : c.isDigit = true) : '0' ≤ c ∧ c ≤ '9' := by
  rw [Char.isDigit_iff_toNat] at h
  simpa [Char.le_def, UInt32.le_iff_toNat_le] using h

theorem digit?_of_isDigit {c : Char} (h : c.isDigit = true) :
    digit? c = some (c.toNat - '0'.toNat) := by
  unfold digit?
  rw [if_pos (le_and_le_of_isDigit h)]

theorem spanDigits_append {cs : List Char} (hcs : ∀ c ∈ cs, c.isDigit = true) {rest : List Char}
    (hrest : EndsNumber rest) : spanDigits (cs ++ rest) = (digitValues cs, rest) := by
  induction cs with
  | nil =>
    cases rest with
    | nil => rfl
    | cons c rest =>
      rw [List.nil_append, spanDigits, (hrest c (by simp)).1]
      rfl
  | cons c cs ih =>
    rw [List.cons_append, spanDigits, digit?_of_isDigit (hcs c (by simp)),
      ih fun d hd => hcs d (List.mem_cons_of_mem c hd)]
    rfl

/-- Digits that fit are all appended. -/
theorem accumulate_digitValues {limit : Nat} (cs : List Char) (value : Nat)
    (h : Nat.ofDigitChars 10 cs value ≤ limit) :
    Decimal.accumulate limit value (digitValues cs) = (Nat.ofDigitChars 10 cs value, 0) := by
  induction cs generalizing value with
  | nil => rfl
  | cons c cs ih =>
    rw [Nat.ofDigitChars_cons, Nat.mul_comm] at h ⊢
    have hle : value * 10 + (c.toNat - '0'.toNat) ≤ limit := by
      -- the digits that follow make the number no smaller
      rw [Nat.ofDigitChars_eq_ofDigitChars_zero] at h
      have hpow : 1 ≤ 10 ^ cs.length := Nat.one_le_pow _ _ (by decide)
      nlinarith
    show Decimal.accumulate limit value (_ :: digitValues cs) = _
    rw [Decimal.accumulate, if_pos hle]
    exact ih _ h

theorem exists_toDigits_eq_cons (n : Nat) :
    ∃ c cs, Nat.toDigits 10 n = c :: cs ∧ c.isDigit = true := by
  obtain ⟨c, cs, hcons⟩ := List.exists_cons_of_ne_nil (Nat.toDigits_ne_nil (n := n) (b := 10))
  refine ⟨c, cs, hcons, ?_⟩
  exact Nat.isDigit_of_mem_toDigits (b := 10) (n := n) (by decide) (by decide) (by simp [hcons])

/-- A positive number is not written with a zero in front. -/
theorem exists_digitValues_toDigits {n : Nat} (hpos : 0 < n) :
    ∃ d ds, digitValues (Nat.toDigits 10 n) = d :: ds ∧ d ≠ 0 := by
  induction n using Nat.strong_induction_on with
  | _ n ih =>
    by_cases hlt : n < 10
    · refine ⟨n, [], ?_, hpos.ne'⟩
      rw [Nat.toDigits_of_lt_base hlt]
      simp [digitValues, Nat.toNat_digitChar_sub_48_of_lt_ten hlt]
    · obtain ⟨d, ds, hdigits, hne⟩ := ih (n / 10) (by omega) (by omega)
      refine ⟨d, ds ++ digitValues [(n % 10).digitChar], ?_, hne⟩
      rw [Nat.toDigits_of_base_le (by decide) (by omega), digitValues, List.map_append]
      exact congrArg (· ++ _) hdigits

theorem readWhole_toDigits (n : Nat) {rest : List Char} (hrest : EndsNumber rest) :
    ∃ hlt, readWhole (Nat.toDigits 10 n ++ rest) =
      .ok ⟨digitValues (Nat.toDigits 10 n), rest, hlt⟩ := by
  have hdigits : ∀ c ∈ Nat.toDigits 10 n, c.isDigit = true := fun c hc =>
    Nat.isDigit_of_mem_toDigits (by decide) (by decide) hc
  have hspan := spanDigits_append hdigits hrest
  have hne : (spanDigits (Nat.toDigits 10 n ++ rest)).1 ≠ [] := by
    rw [hspan]
    simp [digitValues]
  have hread : ∃ hlt, readDigits (Nat.toDigits 10 n ++ rest) =
      .ok ⟨digitValues (Nat.toDigits 10 n), rest, hlt⟩ := by
    have hlt := length_spanDigits_lt hne
    unfold readDigits
    rw [dif_neg hne]
    rw [hspan] at hlt
    refine ⟨hlt, ?_⟩
    simp only [hspan]
  obtain ⟨hlt, hread⟩ := hread
  refine ⟨hlt, ?_⟩
  unfold readWhole
  rw [hread]
  -- a zero in front is only read when it stands alone
  rcases Nat.eq_zero_or_pos n with rfl | hpos
  · rfl
  · obtain ⟨d, ds, hdigits, hd⟩ := exists_digitValues_toDigits hpos
    simp only [Bind.bind, Except.bind]
    split
    · next hzero =>
      rw [hdigits] at hzero
      cases hzero
      exact absurd rfl hd
    · rfl

theorem readFraction_of_endsNumber {rest : List Char} (h : EndsNumber rest) :
    ∃ hle, readFraction rest = .ok ⟨none, rest, hle⟩ := by
  refine ⟨le_rfl, ?_⟩
  unfold readFraction
  split
  · next rest => exact absurd rfl (h '.' (by simp)).2.1
  · rfl

theorem readExponent_of_endsNumber {rest : List Char} (h : EndsNumber rest) :
    ∃ hle, readExponent rest = .ok ⟨none, rest, hle⟩ := by
  refine ⟨le_rfl, ?_⟩
  cases rest with
  | nil => rfl
  | cons c rest =>
    obtain ⟨-, -, he, hE⟩ := h c (by simp)
    rw [readExponent, if_neg (not_or.2 ⟨he, hE⟩)]

/-- A number without point and exponent is the integer that its digits
    make. -/
theorem readUnsigned_toDigits (negative : Bool) {n : Nat} (hn : n ≤ Decimal.maxSignificand)
    {rest : List Char} (hrest : EndsNumber rest) {i : Int}
    (hi : Decimal.integerOf negative n = .int i) :
    ∃ hlt, readUnsigned negative (Nat.toDigits 10 n ++ rest) = .ok ⟨int i, rest, hlt⟩ := by
  obtain ⟨hwholelt, hwhole⟩ := readWhole_toDigits n hrest
  obtain ⟨hfractionle, hfraction⟩ := readFraction_of_endsNumber hrest
  obtain ⟨hexponentle, hexponent⟩ := readExponent_of_endsNumber hrest
  have hvalue : (Decimal.Literal.mk negative (digitValues (Nat.toDigits 10 n)) none none).value? =
      some (.int i) := by
    have hfits : Nat.ofDigitChars 10 (Nat.toDigits 10 n) 0 ≤ Decimal.maxSignificand := by
      rwa [Nat.ofDigitChars_ten_toDigits]
    have haccumulate := accumulate_digitValues (Nat.toDigits 10 n) 0 hfits
    rw [Nat.ofDigitChars_ten_toDigits] at haccumulate
    simp only [Decimal.Literal.value?, haccumulate, hi]
  refine ⟨hwholelt, ?_⟩
  unfold readUnsigned
  simp only [hwhole, hfraction, hexponent, hvalue, Bind.bind, Except.bind]
  rfl

/-! ## Values -/

mutual

/-- A value whose text reads back: no floating point numbers, integers that
    fit 64 bits, members in key order, and nested at most `depth` deep. -/
def Plain : (depth : Nat) → Json → Prop
  | _, null | _, bool _ | _, string _ => True
  | _, int n => -2 ^ 63 ≤ n ∧ n < 2 ^ 64
  | _, float _ => False
  | 0, array _ | 0, object _ => False
  | depth + 1, array items => PlainItems depth items
  | depth + 1, object entries =>
    entries.Pairwise (fun a b => a.1 < b.1) ∧ PlainEntries depth entries

/-- Elements whose texts read back. -/
def PlainItems (depth : Nat) : List Json → Prop
  | [] => True
  | v :: rest => Plain depth v ∧ PlainItems depth rest

/-- Members whose texts read back. -/
def PlainEntries (depth : Nat) : List (String × Json) → Prop
  | [] => True
  | (_, v) :: rest => Plain depth v ∧ PlainEntries depth rest

end

theorem plainItems_iff {depth : Nat} {items : List Json} :
    PlainItems depth items ↔ ∀ v ∈ items, Plain depth v := by
  induction items with
  | nil => simp [PlainItems]
  | cons v vs ih => simp [PlainItems, ih]

theorem skipBlanks_of_not_isBlank {c : Char} (h : isBlank c = false) (cs : List Char) :
    skipBlanks (c :: cs) = c :: cs := by
  unfold skipBlanks
  rw [List.dropWhile_cons_of_neg (by simp [h])]

/-- A text starts with a character that is neither a blank nor closes an
    array. -/
theorem exists_chars_eq_cons (v : Json) (hfloat : ∀ x, v ≠ float x) :
    ∃ c cs, chars v = c :: cs ∧ isBlank c = false ∧ c ≠ ']' := by
  cases v with
  | null => exact ⟨_, _, rfl, rfl, by decide⟩
  | bool b => cases b <;> exact ⟨_, _, rfl, rfl, by decide⟩
  | float x => exact absurd rfl (hfloat x)
  | string s => exact ⟨_, _, rfl, rfl, by decide⟩
  | array items => exact ⟨_, _, rfl, rfl, by decide⟩
  | object entries => exact ⟨_, _, rfl, rfl, by decide⟩
  | int n =>
    -- a number starts with a sign or with a digit
    cases n with
    | negSucc m => exact ⟨'-', Nat.toDigits 10 (m + 1), by simp [chars, Int.repr], rfl, by decide⟩
    | ofNat m =>
      obtain ⟨c, cs, hcons, hdigit⟩ := exists_toDigits_eq_cons m
      refine ⟨c, cs, by simp [chars, Int.repr, hcons], ?_, ?_⟩
      · rw [Bool.eq_false_iff]
        intro hblank
        simp only [isBlank, Bool.or_eq_true, beq_iff_eq] at hblank
        rcases hblank with ((rfl | rfl) | rfl) | rfl <;> simp at hdigit
      · rintro rfl
        simp at hdigit

theorem not_plain_float {depth : Nat} {x : Binary64} : ¬ Plain depth (float x) := by
  cases depth <;> simp [Plain]

theorem skipBlanks_chars {depth : Nat} {v : Json} (h : Plain depth v) (rest : List Char) :
    skipBlanks (chars v ++ rest) = chars v ++ rest := by
  obtain ⟨c, cs, hchars, hblank, -⟩ := exists_chars_eq_cons v fun x hx =>
    not_plain_float (hx ▸ h)
  rw [hchars, List.cons_append, skipBlanks_of_not_isBlank hblank]

theorem itemsChars_false_cons (v : Json) (vs : List Json) :
    itemsChars false (v :: vs) = ',' :: itemsChars true (v :: vs) := by
  simp [itemsChars]

theorem entriesChars_false_cons (e : String × Json) (es : List (String × Json)) :
    entriesChars false (e :: es) = ',' :: entriesChars true (e :: es) := by
  simp [entriesChars]

theorem skipBlanks_itemsChars {depth : Nat} {v : Json} {vs : List Json}
    (h : PlainItems depth (v :: vs)) (rest : List Char) :
    skipBlanks (itemsChars true (v :: vs) ++ rest) = itemsChars true (v :: vs) ++ rest ∧
      ∀ after, itemsChars true (v :: vs) ++ rest ≠ ']' :: after := by
  obtain ⟨c, cs, hchars, hblank, hclose⟩ := exists_chars_eq_cons v fun x hx =>
    not_plain_float (hx ▸ h.1)
  have htext : itemsChars true (v :: vs) ++ rest = c :: (cs ++ (itemsChars false vs ++ rest)) := by
    simp [itemsChars, hchars]
  rw [htext]
  exact ⟨skipBlanks_of_not_isBlank hblank _, fun after heq => hclose (List.cons.inj heq).1⟩

/-- Members start with the quotation mark of a key. -/
theorem entriesChars_append (k : String) (v : Json) (es : List (String × Json))
    (rest : List Char) :
    entriesChars true ((k, v) :: es) ++ rest = '"' :: (k.toList.flatMap escape ++
      '"' :: ':' :: (chars v ++ (entriesChars false es ++ rest))) := by
  simp [entriesChars, stringChars]

theorem endsNumber_itemsChars (vs : List Json) (rest : List Char) :
    EndsNumber (itemsChars false vs ++ rest) := by
  cases vs <;> simp [itemsChars, EndsNumber] <;> decide

theorem endsNumber_entriesChars (es : List (String × Json)) (rest : List Char) :
    EndsNumber (entriesChars false es ++ rest) := by
  cases es <;> simp [entriesChars, EndsNumber] <;> decide

/-- The last element is followed by the bracket. -/
theorem readItems_last {depth : Nat} {text rest : List Char} {v : Json}
    (hvalue : ∃ hlt, readValue depth text = .ok ⟨v, ']' :: rest, hlt⟩) :
    ∃ hlt, readItems depth text = .ok ⟨[v], rest, hlt⟩ := by
  obtain ⟨hlt, hvalue⟩ := hvalue
  refine ⟨Nat.lt_of_succ_lt hlt, ?_⟩
  rw [readItems, hvalue]
  rfl

/-- Any other element is followed by a comma and the elements after it. -/
theorem readItems_comma {depth : Nat} {text after rest : List Char} {v : Json} {vs : List Json}
    (hvalue : ∃ hlt, readValue depth text = .ok ⟨v, ',' :: after, hlt⟩)
    (hitems : ∃ hlt, readItems depth (skipBlanks after) = .ok ⟨vs, rest, hlt⟩) :
    ∃ hlt, readItems depth text = .ok ⟨v :: vs, rest, hlt⟩ := by
  obtain ⟨hlt, hvalue⟩ := hvalue
  obtain ⟨hlt', hitems⟩ := hitems
  have hskip := length_skipBlanks_le after
  refine ⟨by simp only [List.length_cons] at hlt; omega, ?_⟩
  rw [readItems, hvalue]
  -- the comma is read, and what is left is to read the other elements
  conv_lhs => whnf
  rw [hitems]

/-- The last member is followed by the brace. -/
theorem readMembers_last {depth : Nat} {text named rest : List Char} {k : String} {v : Json}
    (hkey : ∃ hlt, readString text = .ok ⟨k, ':' :: named, hlt⟩)
    (hvalue : ∃ hlt, readValue depth (skipBlanks named) = .ok ⟨v, '\x7d' :: rest, hlt⟩) :
    ∃ hlt, readMembers depth ('"' :: text) = .ok ⟨[(k, v)], rest, hlt⟩ := by
  obtain ⟨hlt, hkey⟩ := hkey
  obtain ⟨hlt', hvalue⟩ := hvalue
  have hskip := length_skipBlanks_le named
  refine ⟨by simp only [List.length_cons] at hlt hlt' ⊢; omega, ?_⟩
  rw [readMembers, hkey]
  conv_lhs => whnf
  rw [hvalue]
  rfl

/-- Any other member is followed by a comma and the members after it. -/
theorem readMembers_comma {depth : Nat} {text named after rest : List Char} {k : String}
    {v : Json} {es : List (String × Json)}
    (hkey : ∃ hlt, readString text = .ok ⟨k, ':' :: named, hlt⟩)
    (hvalue : ∃ hlt, readValue depth (skipBlanks named) = .ok ⟨v, ',' :: after, hlt⟩)
    (hmembers : ∃ hlt, readMembers depth (skipBlanks after) = .ok ⟨es, rest, hlt⟩) :
    ∃ hlt, readMembers depth ('"' :: text) = .ok ⟨(k, v) :: es, rest, hlt⟩ := by
  obtain ⟨hlt, hkey⟩ := hkey
  obtain ⟨hlt', hvalue⟩ := hvalue
  obtain ⟨hlt'', hmembers⟩ := hmembers
  have hskip := length_skipBlanks_le named
  have hskip' := length_skipBlanks_le after
  refine ⟨by simp only [List.length_cons] at hlt hlt' ⊢; omega, ?_⟩
  rw [readMembers, hkey]
  conv_lhs => whnf
  rw [hvalue]
  conv_lhs => whnf
  rw [hmembers]

/-- Members in key order are put in that order. -/
theorem entries_ofList {es : List (String × Json)} (h : es.Pairwise fun a b => a.1 < b.1) :
    (Fields.ofList es).entries = es := by
  have hinsert {key : String} (value : Json) {es : List (String × Json)}
      (h : ∀ e ∈ es, e.1 < key) :
      Fields.insertEntry key value es = es ++ [(key, value)] := by
    induction es with
    | nil => rfl
    | cons e es ih =>
      -- the key comes after that of the first member, so it is put behind it
      have hlt : e.1 < key := h e (by simp)
      rw [Fields.insertEntry, if_neg (String.lt_asymm hlt),
        if_neg (fun heq => String.lt_irrefl _ (heq ▸ hlt)),
        ih fun e he => h e (List.mem_cons_of_mem _ he)]
      rfl
  have hall (es : List (String × Json)) (f : Fields)
      (h : (f.entries ++ es).Pairwise fun a b => a.1 < b.1) :
      (f.insertAll es).entries = f.entries ++ es := by
    induction es generalizing f with
    | nil => simp [Fields.insertAll]
    | cons e es ih =>
      have hstep : (f.insert e.1 e.2).entries = f.entries ++ [e] :=
        hinsert e.2 fun e' he' => (List.pairwise_append.1 h).2.2 e' he' e (by simp)
      have hrest := ih (f.insert e.1 e.2) (by rw [hstep]; simpa using h)
      rw [hstep, List.append_assoc] at hrest
      exact hrest
  exact hall es .empty h

theorem readConstant_append (value : Json) (word : String) (c : Char) (rest : List Char) :
    ∃ hlt, readConstant value word c (word.toList ++ rest) = .ok ⟨value, rest, hlt⟩ := by
  have hread (cs : List Char) :
      ∃ hle, readWordOf value cs (cs ++ rest) = .ok ⟨some value, rest, hle⟩ := by
    induction cs with
    | nil => exact ⟨le_rfl, rfl⟩
    | cons c cs ih =>
      obtain ⟨hle, hread⟩ := ih
      rw [List.cons_append]
      refine ⟨Nat.le_succ_of_le hle, ?_⟩
      rw [readWordOf, if_pos rfl, hread]
      rfl
  obtain ⟨hle, hread⟩ := hread word.toList
  refine ⟨Nat.lt_succ_of_le hle, ?_⟩
  unfold readConstant
  rw [hread]
  rfl

/-- An integer that fits 64 bits reads back. -/
theorem readValue_int (depth : Nat) {n : Int} (hlow : -2 ^ 63 ≤ n) (hhigh : n < 2 ^ 64)
    {rest : List Char} (hrest : EndsNumber rest) :
    ∃ hlt, readValue depth ((toString n).toList ++ rest) = .ok ⟨int n, rest, hlt⟩ := by
  have hmax : Decimal.maxSignificand = 2 ^ 64 - 1 := rfl
  cases n with
  | ofNat m =>
    rw [Int.ofNat_eq_natCast] at hhigh
    obtain ⟨c, cs, hcons, hdigit⟩ := exists_toDigits_eq_cons m
    have htext : (toString (Int.ofNat m)).toList = c :: cs := by simp [Int.repr, hcons]
    have hread := readUnsigned_toDigits false (n := m) (by omega) hrest (i := m) rfl
    rw [hcons] at hread
    obtain ⟨hlt, hread⟩ := hread
    rw [htext, List.cons_append]
    refine ⟨hlt, ?_⟩
    rw [readValue, if_pos (le_and_le_of_isDigit hdigit)]
    · exact hread
    all_goals
      rintro rfl
      simp at hdigit
  | negSucc m =>
    have hinteger : Decimal.integerOf true (m + 1) = .int (Int.negSucc m) := by
      have hfits : ¬ (m + 1 = 0 ∨ 0x8000000000000000 < m + 1) := by omega
      rw [Decimal.integerOf, if_neg (by simp), if_neg hfits]
      rfl
    obtain ⟨hlt, hread⟩ := readUnsigned_toDigits true (n := m + 1) (by omega) hrest hinteger
    have htext : (toString (Int.negSucc m)).toList ++ rest =
        '-' :: (Nat.toDigits 10 (m + 1) ++ rest) := by
      simp [Int.repr]
    rw [htext]
    refine ⟨Nat.lt_succ_of_lt hlt, ?_⟩
    rw [readValue, hread]
    rfl

/-- The elements of an array follow its bracket. -/
theorem readValue_array {depth : Nat} {text rest : List Char} {items : List Json}
    (hopen : ∀ after, skipBlanks text ≠ ']' :: after)
    (hitems : ∃ hlt, readItems depth (skipBlanks text) = .ok ⟨items, rest, hlt⟩) :
    ∃ hlt, readValue (depth + 1) ('[' :: text) = .ok ⟨array items, rest, hlt⟩ := by
  obtain ⟨hlt, hitems⟩ := hitems
  have hskip := length_skipBlanks_le text
  refine ⟨by simp only [List.length_cons]; omega, ?_⟩
  rw [readValue]
  split
  · next after hclose => exact absurd hclose (hopen after)
  · rw [hitems]

/-- The members of an object follow its brace. -/
theorem readValue_object {depth : Nat} {text rest : List Char} {es : List (String × Json)}
    (hopen : ∀ after, skipBlanks text ≠ '\x7d' :: after)
    (hsorted : es.Pairwise fun a b => a.1 < b.1)
    (hmembers : ∃ hlt, readMembers depth (skipBlanks text) = .ok ⟨es, rest, hlt⟩) :
    ∃ hlt, readValue (depth + 1) ('\x7b' :: text) = .ok ⟨object es, rest, hlt⟩ := by
  obtain ⟨hlt, hmembers⟩ := hmembers
  have hskip := length_skipBlanks_le text
  refine ⟨by simp only [List.length_cons]; omega, ?_⟩
  rw [readValue]
  split
  · next after hclose => exact absurd hclose (hopen after)
  · rw [hmembers]
    simp only [Json.ofFields, entries_ofList hsorted]

mutual

/-- A plain value reads back. -/
theorem readValue_chars : (depth : Nat) → (v : Json) → Plain depth v → (rest : List Char) →
    EndsNumber rest → ∃ hlt, readValue depth (chars v ++ rest) = .ok ⟨v, rest, hlt⟩
  | depth, null, _, rest, _ => by
    have htext : chars null ++ rest = 'n' :: ("ull".toList ++ rest) := rfl
    obtain ⟨hlt, hread⟩ := readConstant_append null "ull" 'n' rest
    rw [htext]
    exact ⟨hlt, by rw [readValue, hread]⟩
  | depth, bool true, _, rest, _ => by
    have htext : chars (bool true) ++ rest = 't' :: ("rue".toList ++ rest) := rfl
    obtain ⟨hlt, hread⟩ := readConstant_append (bool true) "rue" 't' rest
    rw [htext]
    exact ⟨hlt, by rw [readValue, hread]⟩
  | depth, bool false, _, rest, _ => by
    have htext : chars (bool false) ++ rest = 'f' :: ("alse".toList ++ rest) := rfl
    obtain ⟨hlt, hread⟩ := readConstant_append (bool false) "alse" 'f' rest
    rw [htext]
    exact ⟨hlt, by rw [readValue, hread]⟩
  | depth, int n, hplain, rest, hrest => by
    have hrange : -2 ^ 63 ≤ n ∧ n < 2 ^ 64 := by cases depth <;> exact hplain
    exact readValue_int depth hrange.1 hrange.2 hrest
  | _, float x, hplain, _, _ => absurd hplain not_plain_float
  | depth, string s, _, rest, _ => by
    have htext : chars (string s) ++ rest = '"' :: (s.toList.flatMap escape ++ '"' :: rest) := by
      simp [chars, stringChars]
    obtain ⟨hlt, hread⟩ := readString_chars s rest
    rw [htext]
    exact ⟨Nat.lt_succ_of_lt hlt, by rw [readValue, hread]⟩
  | 0, array items, hplain, _, _ => by simp [Plain] at hplain
  | 0, object entries, hplain, _, _ => by simp [Plain] at hplain
  | depth + 1, array [], hplain, rest, _ => by
    refine ⟨by simp [chars, itemsChars], ?_⟩
    show readValue (depth + 1) ('[' :: ']' :: rest) = _
    rw [readValue]
    rfl
  | depth + 1, array (v :: vs), hplain, rest, _ => by
    have hitems := readItems_chars depth (v :: vs) hplain (List.cons_ne_nil v vs) rest
    obtain ⟨hskip, hopen⟩ := skipBlanks_itemsChars hplain rest
    have htext : chars (array (v :: vs)) ++ rest =
        '[' :: (itemsChars true (v :: vs) ++ rest) := by simp [chars]
    rw [htext]
    exact readValue_array (by rwa [hskip]) (by rwa [hskip])
  | depth + 1, object [], hplain, rest, _ => by
    refine ⟨by simp [chars, entriesChars], ?_⟩
    show readValue (depth + 1) ('\x7b' :: '\x7d' :: rest) = _
    rw [readValue]
    rfl
  | depth + 1, object ((k, v) :: es), hplain, rest, _ => by
    have hmembers := readMembers_chars depth ((k, v) :: es) hplain.2 (by simp) rest
    have hskip : skipBlanks (entriesChars true ((k, v) :: es) ++ rest) =
        entriesChars true ((k, v) :: es) ++ rest := by
      rw [entriesChars_append, skipBlanks_of_not_isBlank rfl]
    have htext : chars (object ((k, v) :: es)) ++ rest =
        '\x7b' :: (entriesChars true ((k, v) :: es) ++ rest) := by simp [chars]
    rw [htext]
    refine readValue_object ?_ hplain.1 (by rwa [hskip])
    rw [hskip, entriesChars_append]
    simp

theorem readItems_chars (depth : Nat) : (items : List Json) → PlainItems depth items →
    items ≠ [] → (rest : List Char) →
    ∃ hlt, readItems depth (itemsChars true items ++ rest) = .ok ⟨items, rest, hlt⟩
  | [], _, hne, _ => absurd rfl hne
  | v :: vs, hplain, _, rest => by
    have hvalue := readValue_chars depth v hplain.1 (itemsChars false vs ++ rest)
      (endsNumber_itemsChars vs rest)
    have htext : itemsChars true (v :: vs) ++ rest = chars v ++ (itemsChars false vs ++ rest) := by
      simp [itemsChars]
    rw [htext]
    cases vs with
    | nil => exact readItems_last hvalue
    | cons v' vs =>
      have hitems := readItems_chars depth (v' :: vs) hplain.2 (List.cons_ne_nil v' vs) rest
      obtain ⟨hskip, -⟩ := skipBlanks_itemsChars hplain.2 rest
      rw [itemsChars_false_cons, List.cons_append] at hvalue ⊢
      exact readItems_comma hvalue (by rwa [hskip])

theorem readMembers_chars (depth : Nat) : (entries : List (String × Json)) →
    PlainEntries depth entries → entries ≠ [] → (rest : List Char) →
    ∃ hlt, readMembers depth (entriesChars true entries ++ rest) = .ok ⟨entries, rest, hlt⟩
  | [], _, hne, _ => absurd rfl hne
  | (k, v) :: es, hplain, _, rest => by
    have hvalue := readValue_chars depth v hplain.1 (entriesChars false es ++ rest)
      (endsNumber_entriesChars es rest)
    rw [← skipBlanks_chars hplain.1] at hvalue
    have hkey := readString_chars k (':' :: (chars v ++ (entriesChars false es ++ rest)))
    rw [entriesChars_append]
    cases es with
    | nil => exact readMembers_last hkey hvalue
    | cons e es =>
      have hmembers := readMembers_chars depth (e :: es) hplain.2 (List.cons_ne_nil e es) rest
      have hskip : skipBlanks (entriesChars true (e :: es) ++ rest) =
          entriesChars true (e :: es) ++ rest := by
        rw [entriesChars_append, skipBlanks_of_not_isBlank rfl]
      rw [entriesChars_false_cons, List.cons_append] at hvalue hkey ⊢
      exact readMembers_comma hkey hvalue (by rwa [hskip])

end

/-- **Reading back.**  The text of a plain value reads back as that value. -/
theorem parse_render {v : Json} (h : Plain maxDepth v) : parse v.render = .ok v := by
  have hread := readValue_chars maxDepth v h [] (by simp [EndsNumber])
  have hskip := skipBlanks_chars h []
  rw [List.append_nil] at hread hskip
  obtain ⟨hlt, hread⟩ := hread
  unfold parse
  rw [toList_render, hskip, hread]
  rfl

theorem parseBytes_toUTF8 (s : String) : parseBytes s.toUTF8 = parse s := by
  have hbytes : String.fromUTF8? s.toUTF8 = some s := by
    unfold String.fromUTF8?
    exact dif_pos s.isValidUTF8
  unfold parseBytes
  rw [hbytes]

end ResourceClient.Json
