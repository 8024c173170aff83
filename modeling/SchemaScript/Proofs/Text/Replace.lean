import SchemaScript.Text.Search

/-! Where a pattern occurs, and replacing it at a known place. The text in front of it is passed over
as long as it has no character that the pattern could begin with, and a text in which the pattern
does not occur is left as it is. -/

namespace SchemaScript.Text

theorem replaceFrom_length (pattern replacement passed rest : List Char) :
    replaceFrom pattern replacement passed.length (passed ++ rest) =
      replaceFrom pattern replacement 0 rest := by
  induction passed with
  | nil => rfl
  | cons c passed ih => rw [List.length_cons, List.cons_append, replaceFrom, ih]

/-- An occurrence at the beginning becomes the replacement. -/
theorem replaceFrom_pattern (c : Char) (pattern replacement rest : List Char) :
    replaceFrom (c :: pattern) replacement 0 (c :: pattern ++ rest) =
      replacement ++ replaceFrom (c :: pattern) replacement 0 rest := by
  rw [List.cons_append, replaceFrom, if_pos (by simp), List.length_cons, Nat.add_sub_cancel,
    replaceFrom_length]

/-- Without the first character of the pattern there is no occurrence to begin. -/
theorem replaceFrom_append_of_notMem {c : Char} {before : List Char} (h : c ∉ before)
    (pattern replacement rest : List Char) :
    replaceFrom (c :: pattern) replacement 0 (before ++ rest) =
      before ++ replaceFrom (c :: pattern) replacement 0 rest := by
  induction before with
  | nil => rfl
  | cons b before ih =>
    rw [List.mem_cons, not_or] at h
    have hprefix : ¬(c :: pattern).isPrefixOf (b :: (before ++ rest)) = true := by
      simp [h.1]
    rw [List.cons_append, replaceFrom, if_neg hprefix, ih h.2, List.cons_append]

/-- Around its only occurrence, the text stays as it is. -/
theorem replace_append_append {before pattern after : String} {c : Char} {rest : List Char}
    (hpattern : pattern.toList = c :: rest) (hbefore : c ∉ before.toList)
    (hafter : c ∉ after.toList) (replacement : String) :
    replace (before ++ pattern ++ after) pattern replacement = before ++ replacement ++ after := by
  have htail : replaceFrom (c :: rest) replacement.toList 0 after.toList = after.toList := by
    simpa [replaceFrom] using replaceFrom_append_of_notMem hafter rest replacement.toList []
  rw [replace, if_neg (by simp [hpattern]), String.toList_append, String.toList_append, hpattern,
    List.append_assoc, replaceFrom_append_of_notMem hbefore, replaceFrom_pattern, htail]
  simp [String.ofList_append, String.append_assoc]

/-! ### Occurrences -/

theorem occursIn_eq_true_iff (pattern text : List Char) :
    occursIn pattern text = true ↔ pattern <:+: text := by
  induction text with
  | nil => cases pattern <;> simp [occursIn]
  | cons c rest ih =>
    rw [occursIn, Bool.or_eq_true, List.isPrefixOf_iff_prefix, ih, List.infix_cons_iff]

theorem contains_eq_true_iff (text pattern : String) :
    contains text pattern = true ↔ pattern.toList <:+: text.toList :=
  occursIn_eq_true_iff _ _

theorem replaceFrom_of_notInfix {pattern text : List Char} (h : ¬pattern <:+: text)
    (replacement : List Char) : replaceFrom pattern replacement 0 text = text := by
  induction text with
  | nil => rfl
  | cons c rest ih =>
    rw [List.infix_cons_iff, not_or] at h
    rw [replaceFrom, if_neg (mt List.isPrefixOf_iff_prefix.1 h.1), ih h.2]

theorem replace_of_contains_eq_false {text pattern : String} (h : contains text pattern = false)
    (replacement : String) : replace text pattern replacement = text := by
  have hinfix : ¬pattern.toList <:+: text.toList := by
    rw [← contains_eq_true_iff, h]
    decide
  unfold replace
  split
  · rfl
  · rw [replaceFrom_of_notInfix hinfix, String.ofList_toList]

end SchemaScript.Text
