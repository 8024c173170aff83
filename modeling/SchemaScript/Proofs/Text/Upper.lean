import SchemaScript.Text.Search
import SchemaScript.Text.Upper

/-! Upper case of texts that spell a word of ASCII. Only characters of ASCII have the letters of ASCII
for their lower case, so a text that differs from a word in capitals by the case of its letters
becomes that word, and the tables for other characters play no part. -/

namespace SchemaScript.Text

/-- Past ASCII, no character has a letter of ASCII for its lower case. -/
theorem toNat_lt_of_toLower {c : Char} (h : c.toLower.toNat < 128) : c.toNat < 128 := by
  by_cases hupper : c.val ≥ 'A'.val ∧ c.val ≤ 'Z'.val
  · have hle : c.toNat ≤ 'Z'.toNat := hupper.2
    exact Nat.lt_of_le_of_lt hle (by decide)
  · have hsame : c.toLower = c := dif_neg hupper
    rwa [hsame] at h

theorem toLower_ascii {c : Char} (h : c.toNat < 128) :
    c.toLower.toNat < 128 ∧ c.toLower.toUpper = c.toUpper := by
  have hall : ∀ n < 128, (Char.ofNat n).toLower.toNat < 128 ∧
      (Char.ofNat n).toLower.toUpper = (Char.ofNat n).toUpper := by decide
  have hc := hall c.toNat h
  rwa [Char.ofNat_toNat] at hc

theorem upperChar_eq_of_toLower_eq {c d : Char} (hd : d.toNat < 128) (h : c.toLower = d.toLower) :
    upperChar c = [d.toUpper] := by
  obtain ⟨hlower, hupper⟩ := toLower_ascii hd
  have hc : c.toNat < 128 := toNat_lt_of_toLower (h ▸ hlower)
  rw [upperChar_ascii hc, ← (toLower_ascii hc).2, h, hupper]

/-- A character of ASCII that is no small letter. -/
def isCapital (c : Char) : Bool := c.toNat < 128 && c.toUpper == c

theorem flatMap_upperChar {word text : List Char} (hword : word.all isCapital = true)
    (h : word.map Char.toLower = text.map Char.toLower) : text.flatMap upperChar = word := by
  induction word generalizing text with
  | nil =>
    obtain rfl := List.map_eq_nil_iff.1 h.symm
    rfl
  | cons c rest ih =>
    obtain ⟨d, others, rfl, hd, hothers⟩ := List.map_eq_cons_iff.1 h.symm
    rw [List.all_cons, isCapital, Bool.and_eq_true, Bool.and_eq_true, decide_eq_true_eq,
      beq_iff_eq] at hword
    obtain ⟨⟨hc, hupper⟩, hrest⟩ := hword
    rw [List.flatMap_cons, upperChar_eq_of_toLower_eq hc hd, hupper, ih hrest hothers.symm,
      List.singleton_append]

theorem upper_eq_of_sameLetters {word text : String} (hword : word.toList.all isCapital = true)
    (h : sameLetters word text = true) : upper text = word := by
  rw [upper, flatMap_upperChar hword (beq_iff_eq.1 h), String.ofList_toList]

end SchemaScript.Text
