import SchemaScript.Json.Reader
import SchemaScript.Json.Writer

/-! Words, strings and integers are read back as they were written, with whatever follows them left
over. Integers have to be followed by something that cannot belong to a number. -/

namespace SchemaScript.Json

/-! ### Strings -/

theorem hexValue?_hexDigit : ∀ n < 16, hexValue? (hexDigit n) = some n := by decide

theorem writeChar_ne_nil (c : Char) : writeChar c ≠ [] := by
  unfold writeChar
  split
  case h_8 => split <;> simp
  all_goals simp

theorem readUnicode_control {c : Char} (hc : c.toNat < 32) (rest : List Char) :
    readUnicode ('0' :: '0' :: hexDigit (c.toNat / 16) :: hexDigit (c.toNat % 16) :: rest) =
      .ok (c, rest) := by
  have hzero : hexValue? '0' = some 0 := rfl
  have hhigh := hexValue?_hexDigit (c.toNat / 16) (by omega)
  have hlow := hexValue?_hexDigit (c.toNat % 16) (by omega)
  have hunit : ((0 * 16 + 0) * 16 + c.toNat / 16) * 16 + c.toNat % 16 = c.toNat := by omega
  have hd : ¬ 0xDC00 ≤ c.toNat := by omega
  have hs : ¬ 0xD800 ≤ c.toNat := by omega
  simp only [readUnicode, readUnit, hzero, hhigh, hlow, bind, Except.bind, hunit]
  simp [hd, hs, Char.ofNat_toNat]

/-- One round of the reader takes in what stands for one character. -/
theorem readCharacters_writeChar (c x : Char) (fuel rest : List Char) :
    readCharacters (x :: fuel) (writeChar c ++ rest) =
      (readCharacters fuel rest).map fun (text, rest) => (c :: text, rest) := by
  unfold writeChar
  split
  case h_8 _ hquote hslash _ _ _ _ _ =>
    split
    next hc =>
      simp only [List.cons_append, List.nil_append, readCharacters, readEscape, bind, Except.bind,
        readUnicode_control hc]
      cases readCharacters fuel rest <;> rfl
    next hc =>
      simp only [List.cons_append, List.nil_append]
      rw [readCharacters]
      · simp only [hc, if_false, bind, Except.bind]
        cases readCharacters fuel rest <;> rfl
      · exact hquote
      · exact hslash
  all_goals
    simp only [List.cons_append, List.nil_append, readCharacters, readEscape, bind, Except.bind]
    cases readCharacters fuel rest <;> rfl

theorem readCharacters_flatMap (text fuel rest : List Char) (h : text.length < fuel.length) :
    readCharacters fuel (text.flatMap writeChar ++ '"' :: rest) = .ok (text, rest) := by
  induction text generalizing fuel with
  | nil =>
    obtain ⟨x, fuel, rfl⟩ := List.exists_cons_of_length_pos h
    rfl
  | cons c text ih =>
    obtain ⟨x, fuel, rfl⟩ := List.exists_cons_of_length_pos (Nat.lt_of_le_of_lt (Nat.zero_le _) h)
    simp only [List.length_cons, Nat.add_lt_add_iff_right] at h
    rw [List.flatMap_cons, List.append_assoc, readCharacters_writeChar, ih fuel h]
    rfl

theorem length_le_flatMap_writeChar (text : List Char) :
    text.length ≤ (text.flatMap writeChar).length := by
  induction text with
  | nil => simp
  | cons c text ih =>
    have hc := List.length_pos_iff.2 (writeChar_ne_nil c)
    simp only [List.flatMap_cons, List.length_append, List.length_cons]
    omega

theorem toList_writeString (s : String) (rest : List Char) :
    (writeString s).toList ++ rest = '"' :: (s.toList.flatMap writeChar ++ '"' :: rest) := by
  simp [writeString]

theorem readString_writeString (s : String) (rest : List Char) :
    readString (s.toList.flatMap writeChar ++ '"' :: rest) = .ok (s, rest) := by
  have hlength := length_le_flatMap_writeChar s.toList
  have hfuel : s.toList.length < (s.toList.flatMap writeChar ++ '"' :: rest).length := by
    simp only [List.length_append, List.length_cons]
    omega
  simp only [readString, readCharacters_flatMap _ _ _ hfuel, bind, Except.bind,
    String.ofList_toList]

/-! ### Integers -/

/-- What may follow a value inside a container, or at the end of the text. -/
def Ends (rest : List Char) : Prop := ∀ c ∈ rest.head?, c = ',' ∨ c = ']' ∨ c = '\x7d'

theorem ends_nil : Ends [] := by simp [Ends]

theorem ends_cons {c : Char} (rest : List Char) (hc : c = ',' ∨ c = ']' ∨ c = '\x7d') :
    Ends (c :: rest) := by simpa [Ends] using hc

theorem Ends.startsWithDigit {rest : List Char} (h : Ends rest) : startsWithDigit rest = false := by
  cases rest with
  | nil => rfl
  | cons c rest => rcases h c rfl with rfl | rfl | rfl <;> rfl

theorem le_ofDigitChars (digits : List Char) (value : Nat) :
    value ≤ Nat.ofDigitChars 10 digits value := by
  rw [Nat.ofDigitChars_eq_ofDigitChars_zero]
  have := Nat.le_mul_of_pos_left value (Nat.pow_pos (n := digits.length) (by omega : 0 < 10))
  omega

theorem readDigits_append (bound value : Nat) (digits rest : List Char)
    (hdigits : ∀ c ∈ digits, c.isDigit = true) (hb : Nat.ofDigitChars 10 digits value < bound)
    (hr : startsWithDigit rest = false) :
    readDigits bound value (digits ++ rest) = (Nat.ofDigitChars 10 digits value, rest) := by
  induction digits generalizing value with
  | nil =>
    cases rest with
    | nil => rfl
    | cons c rest =>
      have hc : c.isDigit = false := hr
      simp [readDigits, hc]
  | cons c digits ih =>
    have hc := hdigits c (by simp)
    rw [Nat.ofDigitChars_cons] at hb ⊢
    have hlt : 10 * value + digitValue c < bound := Nat.lt_of_le_of_lt (le_ofDigitChars _ _) hb
    simp only [List.cons_append, readDigits, hc, hlt, decide_true, Bool.and_true, if_true]
    exact ih _ (fun x hx => hdigits x (by simp [hx])) hb

/-- A numeral does not begin with a zero that could be left out. -/
theorem toDigits_head?_eq_zero {n : Nat} (h : (Nat.toDigits 10 n).head? = some '0') : n = 0 := by
  induction n using Nat.strongRecOn with
  | ind n ih =>
    by_cases hn : n < 10
    · rw [Nat.toDigits_of_lt_base hn] at h
      simpa using h
    · rw [Nat.toDigits_of_base_le (by omega) (by omega)] at h
      cases hd : Nat.toDigits 10 (n / 10) with
      | nil => exact absurd hd Nat.toDigits_ne_nil
      | cons d ds =>
        have := ih (n / 10) (by omega) (by rw [hd] at h ⊢; exact h)
        omega

theorem Ends.takeWhile_isDigit {rest : List Char} (h : Ends rest) :
    rest.takeWhile Char.isDigit = [] := by
  cases rest with
  | nil => rfl
  | cons c rest =>
    have hc : c.isDigit = false := h.startsWithDigit
    simp [hc]

/-- Only the number zero begins with a zero, and then no digit follows. -/
theorem not_leadingZero {n : Nat} {d : Char} {ds : List Char} (h : Nat.toDigits 10 n = d :: ds)
    {rest : List Char} (hr : Ends rest) :
    (decide ((d :: (ds ++ rest)).head? = some '0') &&
      startsWithDigit (d :: (ds ++ rest)).tail) = false := by
  by_cases hd : d = '0'
  · have hzero : n = 0 := toDigits_head?_eq_zero (by rw [h, hd, List.head?_cons])
    subst hzero
    have hds : ds = [] := by simpa [hd] using h.symm
    simp [hds, hr.startsWithDigit]
  · simp [hd]

theorem readUnsigned_toDigits (negative : Bool) {n : Nat} (hn : n < significandBound)
    {rest : List Char} (hr : Ends rest) :
    readUnsigned negative (Nat.toDigits 10 n ++ rest) = .ok (integer negative n, rest) := by
  have hall : ∀ c ∈ Nat.toDigits 10 n, c.isDigit = true := fun c hc =>
    Nat.isDigit_of_mem_toDigits (by omega) (by omega) hc
  have hvalue : Nat.ofDigitChars 10 (Nat.toDigits 10 n) 0 = n := Nat.ofDigitChars_ten_toDigits
  have hread := readDigits_append significandBound 0 _ rest hall (by rwa [hvalue])
    hr.startsWithDigit
  rw [hvalue] at hread
  cases hd : Nat.toDigits 10 n with
  | nil => exact absurd hd Nat.toDigits_ne_nil
  | cons d ds =>
    rw [hd, List.cons_append] at hread
    have hdigit : startsWithDigit (d :: (ds ++ rest)) = true := hall d (by simp [hd])
    simp only [readUnsigned, List.cons_append, List.isEmpty_cons, hdigit, not_leadingZero hd hr,
      hread, hr.takeWhile_isDigit, Bool.not_true, Bool.false_eq_true, if_false, List.length_nil,
      List.drop_zero, if_true]
    cases rest with
    | nil => rfl
    | cons c rest => rcases hr c rfl with rfl | rfl | rfl <;> rfl

theorem isDigit_ne_minus {c : Char} (hc : c.isDigit = true) : c ≠ '-' := by
  rintro rfl
  cases hc

/-- The integers that are kept as they are when they are read. -/
def FitsWord (value : Int) : Prop := -9223372036854775808 ≤ value ∧ value < 18446744073709551616

/-- What an integer is written with. -/
theorem toString_int (value : Int) :
    (toString value).toList =
      (if value < 0 then ['-'] else []) ++ Nat.toDigits 10 value.natAbs := by
  cases value with
  | ofNat n => exact Nat.toList_repr
  | negSucc n =>
    have hneg : Int.negSucc n < 0 := Int.negSucc_lt_zero n
    rw [if_pos hneg]
    show ("-" ++ Nat.repr (n + 1)).toList = _
    simp

theorem readNumber_toString {value : Int} (hv : FitsWord value) {rest : List Char}
    (hr : Ends rest) : readNumber ((toString value).toList ++ rest) = .ok (int value, rest) := by
  obtain ⟨hlow, hhigh⟩ := hv
  rw [toString_int]
  by_cases hneg : value < 0
  · have hnat : value.natAbs < significandBound := by simp only [significandBound]; omega
    simp only [if_pos hneg, List.cons_append, List.nil_append, readNumber,
      readUnsigned_toDigits true hnat hr]
    have hzero : value.natAbs ≠ 0 := by omega
    have hword : ¬ 9223372036854775808 < value.natAbs := by omega
    have hvalue : -(value.natAbs : Int) = value := by omega
    simp only [integer, hzero, hword, hvalue, Bool.not_true, Bool.false_eq_true, decide_false,
      Bool.or_self, if_false]
  · have hnat : value.natAbs < significandBound := by simp only [significandBound]; omega
    have hvalue : (value.natAbs : Int) = value := by omega
    have hread := readUnsigned_toDigits false hnat hr
    simp only [if_neg hneg, List.nil_append]
    cases hd : Nat.toDigits 10 value.natAbs with
    | nil => exact absurd hd Nat.toDigits_ne_nil
    | cons d ds =>
      have hdd : d.isDigit = true :=
        Nat.isDigit_of_mem_toDigits (b := 10) (n := value.natAbs) (by omega) (by omega)
          (by simp [hd])
      rw [hd] at hread
      rw [List.cons_append] at hread ⊢
      rw [readNumber]
      · rw [hread]; simp [integer, hvalue]
      · rintro tail h
        exact isDigit_ne_minus hdd (List.cons.inj h).1

end SchemaScript.Json
