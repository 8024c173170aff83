import SchemaScript.Text.Numeral

/-! Numbers that are written in decimal digits and read back. -/

namespace SchemaScript.Text

theorem isDigit_of_mem_repr {n : Nat} {c : Char} (h : c ∈ (Nat.repr n).toList) :
    c.isDigit = true := by
  rw [Nat.toList_repr] at h
  exact Nat.isDigit_of_mem_toDigits (by omega) (by omega) h

theorem digitsValue?_toList_repr (n : Nat) : digitsValue? (Nat.repr n).toList = some n := by
  have hne : (Nat.repr n).toList ≠ [] := by
    rw [Nat.toList_repr]
    exact Nat.toDigits_ne_nil
  have hall : (Nat.repr n).toList.all Char.isDigit = true :=
    List.all_eq_true.2 fun c hc => isDigit_of_mem_repr hc
  have hvalue : Nat.ofDigitChars 10 (Nat.repr n).toList 0 = n := by
    rw [Nat.toList_repr]
    exact Nat.ofDigitChars_ten_toDigits
  rw [digitsValue?, hall, List.isEmpty_eq_false_iff.2 hne, hvalue]
  rfl

/-- What is written for a number below the bound stands for that number. -/
theorem numeral?_repr {n : Nat} (h : n < numeralBound) : numeral? (Nat.repr n) = some n := by
  have hsign : ∀ rest, (Nat.repr n).toList ≠ '+' :: rest := by
    intro rest hplus
    have hdigit : ('+' : Char).isDigit = true := isDigit_of_mem_repr (hplus ▸ List.mem_cons_self)
    exact absurd hdigit (by decide)
  unfold numeral?
  split
  next rest hplus => exact absurd hplus (hsign rest)
  next =>
    show (digitsValue? (Nat.repr n).toList).filter _ = _
    rw [digitsValue?_toList_repr, Option.filter_some, if_pos (by simpa using h)]

end SchemaScript.Text
