import SchemaScript.Calendar.Reader
import SchemaScript.Proofs.Text.Blank
import Mathlib.Algebra.Group.Nat.Defs

/-! A moment is read back from its exact form, leap seconds and years of any sign included. Each
field is a run of digits that stops at the separator behind it. -/

namespace SchemaScript.Timestamp

/-! ### Runs of digits -/

theorem toList_padded (width n : Nat) :
    (padded width n).toList =
      List.replicate (width - (Nat.toDigits 10 n).length) '0' ++ Nat.toDigits 10 n := by
  simp [padded]

theorem isDigit_of_mem_padded (width n : Nat) :
    ∀ c ∈ (padded width n).toList, c.isDigit = true := by
  intro c hc
  rw [toList_padded, List.mem_append] at hc
  rcases hc with hc | hc
  · rw [(List.mem_replicate.1 hc).2]; rfl
  · exact Nat.isDigit_of_mem_toDigits (b := 10) (by omega) (by omega) hc

theorem padded_ne_nil (width n : Nat) : (padded width n).toList ≠ [] := by
  rw [toList_padded]
  exact List.append_ne_nil_of_right_ne_nil _ Nat.toDigits_ne_nil

theorem ofDigitChars_padded (width n : Nat) :
    Nat.ofDigitChars 10 (padded width n).toList 0 = n := by
  rw [toList_padded, Nat.ofDigitChars_append, Nat.ofDigitChars_replicate_zero, Nat.mul_zero,
    Nat.ofDigitChars_ten_toDigits]

theorem length_padded {width n : Nat} (hw : 0 < width) (hn : n < 10 ^ width) :
    (padded width n).toList.length = width := by
  have hlength := (Nat.length_toDigits_le_iff (b := 10) (by omega) hw).2 hn
  rw [toList_padded, List.length_append, List.length_replicate]
  omega

theorem takeDigits_append (width : Option Nat) {digits rest : List Char}
    (hall : ∀ c ∈ digits, c.isDigit = true) (hw : ∀ w ∈ width, digits.length ≤ w)
    (hr : rest.takeWhile Char.isDigit = []) :
    takeDigits width (digits ++ rest) = (digits, rest) := by
  have htake : (digits ++ rest).takeWhile Char.isDigit = digits := by
    rw [List.takeWhile_append_of_pos hall, hr, List.append_nil]
  cases width with
  | none => simp [takeDigits, htake]
  | some w => simp [takeDigits, htake, List.take_of_length_le (hw w rfl)]

theorem scanNumber_padded (width : Option Nat) (places n : Nat) {rest : List Char}
    (hn : n < scanBound) (hw : ∀ w ∈ width, (padded places n).toList.length ≤ w)
    (hr : rest.takeWhile Char.isDigit = []) :
    scanNumber width ((padded places n).toList ++ rest) = .ok (n, rest) := by
  have htake := takeDigits_append width (isDigit_of_mem_padded places n) hw hr
  cases hd : (padded places n).toList with
  | nil => exact absurd hd (padded_ne_nil places n)
  | cons d ds =>
    have hvalue := ofDigitChars_padded places n
    rw [hd] at htake hvalue
    simp only [scanNumber, htake, hvalue, hn, if_true]

theorem skipBlanks_padded (places n : Nat) (rest : List Char) :
    skipBlanks ((padded places n).toList ++ rest) = (padded places n).toList ++ rest := by
  have hall := isDigit_of_mem_padded places n
  cases hd : (padded places n).toList with
  | nil => exact absurd hd (padded_ne_nil places n)
  | cons d ds =>
    have hblank := Text.isBlankChar_of_isDigit (hall d (by simp [hd]))
    simp [skipBlanks, hblank]

/-! ### Fields -/

theorem scanField_padded {least greatest n : Nat} (hl : least ≤ n) (hg : n ≤ greatest)
    (hn : n < 100) {rest : List Char} (hr : rest.takeWhile Char.isDigit = []) :
    scanField least greatest ((padded 2 n).toList ++ rest) = .ok (n, rest) := by
  have hlength : ∀ w ∈ some 2, (padded 2 n).toList.length ≤ w := by
    rintro w ⟨⟩
    exact Nat.le_of_eq (length_padded (by omega) (by omega))
  have hbound : n < scanBound := by simp only [scanBound]; omega
  simp only [scanField, skipBlanks_padded, scanNumber_padded (some 2) 2 n hbound hlength hr, bind,
    Except.bind]
  simp [hl, hg]

theorem scanMark_cons {mark : Char} (hm : Text.isBlankChar mark = false) (rest : List Char) :
    scanMark mark (mark :: rest) = .ok ((), rest) := by
  simp [scanMark, skipBlanks, hm]

/-- A year that fits the reader, which takes in more than the calendar has. -/
def FitsYear (year : Int) : Prop := -2147483648 ≤ year ∧ year ≤ 2147483647

theorem scanYear_plain {year : Int} (hlow : 0 ≤ year) (hhigh : year ≤ 9999) {rest : List Char}
    (hr : rest.takeWhile Char.isDigit = []) :
    scanYear ((padded 4 year.natAbs).toList ++ rest) = .ok (year, rest) := by
  have hlength : ∀ w ∈ some 4, (padded 4 year.natAbs).toList.length ≤ w := by
    rintro w ⟨⟩
    exact Nat.le_of_eq (length_padded (by omega) (by omega))
  have hbound : year.natAbs < scanBound := by simp only [scanBound]; omega
  have hnumber := scanNumber_padded (some 4) 4 year.natAbs hbound hlength hr
  have hvalue : (year.natAbs : Int) = year := by omega
  have hrange : (decide (-2147483648 ≤ year) && decide (year ≤ 2147483647)) = true := by
    simp; omega
  have hall := isDigit_of_mem_padded 4 year.natAbs
  rw [scanYear, skipBlanks_padded]
  cases hd : (padded 4 year.natAbs).toList with
  | nil => exact absurd hd (padded_ne_nil 4 year.natAbs)
  | cons d ds =>
    have hdd : d.isDigit = true := hall d (by simp [hd])
    rw [hd] at hnumber
    rw [List.cons_append] at hnumber ⊢
    -- The year begins with a digit, and so not with a sign.
    split
    next heq => rw [(List.cons.inj heq).1] at hdd; cases hdd
    next heq => rw [(List.cons.inj heq).1] at hdd; cases hdd
    next => simp only [hnumber, bind, Except.bind, hvalue, hrange, if_true]

theorem scanYear_signed {year : Int} (hy : FitsYear year) {rest : List Char}
    (hr : rest.takeWhile Char.isDigit = []) :
    scanYear ((if year < 0 then '-' else '+') :: ((padded 4 year.natAbs).toList ++ rest)) =
      .ok (year, rest) := by
  have hbound : year.natAbs < scanBound := by
    simp only [scanBound, FitsYear] at hy ⊢
    omega
  have hnumber := scanNumber_padded none 4 year.natAbs hbound (by simp) hr
  have hrange : (decide (-2147483648 ≤ year) && decide (year ≤ 2147483647)) = true := by
    simpa [FitsYear] using hy
  by_cases hneg : year < 0
  · have hskip : ∀ rest, skipBlanks ('-' :: rest) = '-' :: rest := fun _ => rfl
    have hvalue : -(year.natAbs : Int) = year := by omega
    simp only [if_pos hneg, scanYear, hskip, hnumber, bind, Except.bind, hvalue, hrange, if_true]
  · have hskip : ∀ rest, skipBlanks ('+' :: rest) = '+' :: rest := fun _ => rfl
    have hvalue : (year.natAbs : Int) = year := by omega
    simp only [if_neg hneg, scanYear, hskip, hnumber, bind, Except.bind, hvalue, hrange, if_true]

theorem scanYear_writeYear {year : Int} (hy : FitsYear year) {rest : List Char}
    (hr : rest.takeWhile Char.isDigit = []) :
    scanYear ((writeYear year).toList ++ rest) = .ok (year, rest) := by
  by_cases hplain : 0 ≤ year ∧ year ≤ 9999
  · have hwrite : writeYear year = padded 4 year.natAbs := by simp [writeYear, hplain]
    rw [hwrite, scanYear_plain hplain.1 hplain.2 hr]
  · have hwrite : (writeYear year).toList =
        (if year < 0 then '-' else '+') :: (padded 4 year.natAbs).toList := by
      have hcond : (decide (0 ≤ year) && decide (year ≤ 9999)) = false := by
        simp only [Bool.and_eq_false_iff, decide_eq_false_iff_not]
        omega
      simp only [writeYear, hcond]
      by_cases hneg : year < 0 <;> simp [hneg]
    rw [hwrite, List.cons_append, scanYear_signed hy hr]

/-- A point and so many digits, which count as many units of their last place. -/
theorem scanFraction_padded {places value : Nat} (hpos : 0 < places) (hplaces : places ≤ 9)
    (hvalue : value < 10 ^ places) :
    scanFraction ("." ++ padded places value).toList =
      .ok (value * Nat.pow 10 (9 - places), []) := by
  have hlength := length_padded hpos hvalue
  have hbound : value < scanBound := by
    have := Nat.pow_le_pow_right (n := 10) (by omega) hplaces
    simp only [scanBound]
    omega
  have hnumber : scanNumber (some 9) ((padded places value).toList ++ []) = .ok (value, []) :=
    scanNumber_padded (some 9) places value hbound (by rintro w ⟨⟩; omega) rfl
  rw [List.append_nil] at hnumber
  have htext : ("." ++ padded places value).toList = '.' :: (padded places value).toList := by simp
  simp only [htext, scanFraction, hnumber, bind, Except.bind, hlength, List.length_nil,
    Nat.sub_zero, List.dropWhile_nil]

theorem scanFraction_writeFraction {nanosecond : Nat} (hn : nanosecond < 1000000000) :
    scanFraction (writeFraction nanosecond).toList = .ok (nanosecond, []) := by
  unfold writeFraction
  by_cases hzero : nanosecond = 0
  · rw [if_pos hzero, hzero]
    rfl
  rw [if_neg hzero]
  by_cases hmilli : nanosecond % 1000000 = 0
  · rw [if_pos hmilli, scanFraction_padded (by omega) (by omega) (by omega)]
    congr 2
    simp only [Nat.pow_eq]
    omega
  rw [if_neg hmilli]
  by_cases hmicro : nanosecond % 1000 = 0
  · rw [if_pos hmicro, scanFraction_padded (by omega) (by omega) (by omega)]
    congr 2
    simp only [Nat.pow_eq]
    omega
  · rw [if_neg hmicro, scanFraction_padded (by omega) (by omega) (by omega)]
    congr 2
    simp

/-! ### Moments -/

theorem toList_write (t : Timestamp) :
    t.write.toList = (writeYear t.year).toList ++ '-' :: ((padded 2 t.month).toList ++
      '-' :: ((padded 2 t.day).toList ++ 'T' :: ((padded 2 t.hour).toList ++
      ':' :: ((padded 2 t.minute).toList ++ ':' :: ((padded 2 t.second).toList ++
      (writeFraction t.nanosecond).toList))))) := by
  simp [write]

theorem takeWhile_isDigit_writeFraction (nanosecond : Nat) :
    (writeFraction nanosecond).toList.takeWhile Char.isDigit = [] := by
  unfold writeFraction
  split
  · rfl
  · split
    · simp
    · split <;> simp

theorem daysInMonth_le (year : Int) (month : Nat) : daysInMonth year month ≤ 31 := by
  unfold daysInMonth
  split
  · split <;> omega
  all_goals omega

/-- A moment is read back from its exact form. -/
theorem read_write (t : Timestamp) : read t.write = .ok t := by
  obtain ⟨hyear, ⟨hmonth, hmonth'⟩, hday, hday'⟩ := t.isDate
  obtain ⟨hhour, hminute, hsecond, hnano⟩ := t.isTime
  have hdays := daysInMonth_le t.year t.month
  have hfits : FitsYear t.year := by simp only [FitsYear]; omega
  have year : ∀ rest, scanYear ((writeYear t.year).toList ++ '-' :: rest) =
      .ok (t.year, '-' :: rest) := fun _ => scanYear_writeYear hfits rfl
  have month : ∀ rest, scanField 1 12 ((padded 2 t.month).toList ++ '-' :: rest) =
      .ok (t.month, '-' :: rest) := fun _ => scanField_padded hmonth hmonth' (by omega) rfl
  have day : ∀ rest, scanField 1 31 ((padded 2 t.day).toList ++ 'T' :: rest) =
      .ok (t.day, 'T' :: rest) := fun _ => scanField_padded hday (by omega) (by omega) rfl
  have hour : ∀ rest, scanField 0 23 ((padded 2 t.hour).toList ++ ':' :: rest) =
      .ok (t.hour, ':' :: rest) := fun _ => scanField_padded (by omega) (by omega) (by omega) rfl
  have minute : ∀ rest, scanField 0 59 ((padded 2 t.minute).toList ++ ':' :: rest) =
      .ok (t.minute, ':' :: rest) := fun _ => scanField_padded (by omega) (by omega) (by omega) rfl
  have second : scanField 0 60 ((padded 2 t.second).toList ++ (writeFraction t.nanosecond).toList) =
      .ok (t.second, (writeFraction t.nanosecond).toList) :=
    scanField_padded (by omega) hsecond (by omega) (takeWhile_isDigit_writeFraction t.nanosecond)
  have hyphen : ∀ rest, scanMark '-' ('-' :: rest) = .ok ((), rest) := scanMark_cons rfl
  have letter : ∀ rest, scanMark 'T' ('T' :: rest) = .ok ((), rest) := scanMark_cons rfl
  have colon : ∀ rest, scanMark ':' (':' :: rest) = .ok ((), rest) := scanMark_cons rfl
  have valid : IsDate t.year t.month t.day ∧ IsTime t.hour t.minute t.second t.nanosecond :=
    ⟨t.isDate, t.isTime⟩
  simp only [read, toList_write, year, month, day, hour, minute, second, hyphen, letter, colon,
    scanFraction_writeFraction hnano, skipBlanks, List.dropWhile_nil, bind, Except.bind,
    dif_pos valid]

end SchemaScript.Timestamp
