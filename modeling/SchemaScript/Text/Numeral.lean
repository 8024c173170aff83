/-! Numbers below 2³² written in decimal digits. -/

namespace SchemaScript.Text

/-- One past the largest number that a numeral can stand for. -/
def numeralBound : Nat := 4294967296

/-- The value of a text of decimal digits, one at least. -/
def digitsValue? (digits : List Char) : Option Nat :=
  if !digits.isEmpty && digits.all Char.isDigit then some (Nat.ofDigitChars 10 digits 0) else none

/-- The number that a text stands for: decimal digits behind an optional plus sign, below the bound.
-/
def numeral? (s : String) : Option Nat :=
  let digits := match s.toList with
    | '+' :: rest => rest
    | other => other
  (digitsValue? digits).filter (· < numeralBound)

theorem numeral?_lt {s : String} {n : Nat} (h : numeral? s = some n) : n < numeralBound := by
  simp only [numeral?, Option.filter_eq_some_iff] at h
  simpa using h.2

end SchemaScript.Text
