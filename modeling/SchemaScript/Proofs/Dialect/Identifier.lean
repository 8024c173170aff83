import SchemaScript.Dialect.Identifier
import SchemaScript.Proofs.Text.Quotation

/-! Which names look quoted, and which are written alike. Names that come without quotes are written
alike only when they are the same, since a quoted name can be read back and a safe one never looks
quoted. -/

namespace SchemaScript.Dialect

/-! ### Names that do not look quoted -/

section

variable {d : Dialect} {name : String}

theorem isQuoted_eq_false_of_head? {c : Char} (h : name.toList.head? = some c)
    (hc : c ≠ d.quote) : d.isQuoted name = false := by
  simp [isQuoted, h, hc]

theorem isQuoted_eq_false_of_getLast? {c : Char} (h : name.toList.getLast? = some c)
    (hc : c ≠ d.quote) : d.isQuoted name = false := by
  simp [isQuoted, h, hc]

theorem isQuoted_eq_false_of_notMem (h : d.quote ∉ name.toList) : d.isQuoted name = false := by
  cases hname : name.toList with
  | nil => simp [isQuoted, hname]
  | cons c rest =>
    refine isQuoted_eq_false_of_head? (c := c) (by rw [hname, List.head?_cons]) ?_
    rintro rfl
    exact h (by rw [hname]; exact List.mem_cons_self)

end

theorem isSafeChar_of_isRegular {name : String} (h : isRegular name = true) :
    ∀ c ∈ name.toList, isSafeChar c = true := by
  unfold isRegular at h
  split at h
  next => contradiction
  next first rest hlist =>
    rw [Bool.and_eq_true, List.all_eq_true] at h
    intro c hc
    rw [hlist, List.mem_cons] at hc
    rcases hc with rfl | hc
    · simp [isSafeChar, h.1]
    · exact h.2 c hc

/-! ### Names as they are written -/

theorem isQuoted_quotedBy (d : Dialect) (name : String) :
    d.isQuoted (Text.quotedBy d.quote name) = true := by
  have hmark := d.quote.utf8Size_pos
  have hsize : 2 ≤ (Text.quotedBy d.quote name).utf8ByteSize := by
    simp only [Text.quotedBy, String.ofList_cons, String.ofList_append, String.utf8ByteSize_append,
      String.utf8ByteSize_singleton, String.ofList_nil]
    omega
  have htext : (Text.quotedBy d.quote name).toList =
      d.quote :: Text.doubleMarks d.quote name.toList ++ [d.quote] := String.toList_ofList
  rw [isQuoted, htext, List.getLast?_concat, List.cons_append, List.head?_cons]
  simpa using hsize

theorem identifier_of_isQuoted {d : Dialect} {name : String} (h : d.isQuoted name = true) :
    d.identifier name = name := by
  rw [identifier]
  by_cases hempty : name.isEmpty = true
  · rw [if_pos hempty, String.isEmpty_iff.1 hempty]
  · rw [if_neg hempty, if_pos h]

/-- A name without quotes is written as it is, or between quotes. -/
theorem identifier_eq_or {d : Dialect} {name : String} (h : d.isQuoted name = false) :
    d.identifier name = name ∨ d.identifier name = Text.quotedBy d.quote name := by
  unfold identifier
  split
  next hempty =>
    left
    exact (String.isEmpty_iff.1 hempty).symm
  next =>
    rw [h, if_neg (by decide)]
    split
    · exact .inl rfl
    · exact .inr rfl

/-- Nothing of a name is left out. -/
theorem mem_identifier {d : Dialect} {name : String} {c : Char} (h : c ∈ name.toList) :
    c ∈ (d.identifier name).toList := by
  cases hquoted : d.isQuoted name with
  | true => rwa [identifier_of_isQuoted hquoted]
  | false =>
    rcases identifier_eq_or hquoted with hname | hname
    · rwa [hname]
    · rw [hname, Text.quotedBy, String.toList_ofList]
      exact List.mem_cons_of_mem _ (List.mem_append_left _ (Text.mem_doubleMarks h))

theorem identifier_injective {d : Dialect} {first second : String}
    (hfirst : d.isQuoted first = false) (hsecond : d.isQuoted second = false)
    (h : d.identifier first = d.identifier second) : first = second := by
  rcases identifier_eq_or hfirst with hf | hf <;> rcases identifier_eq_or hsecond with hs | hs
  · rw [← hf, h, hs]
  · have hquoted := isQuoted_quotedBy d second
    rw [← hs, ← h, hf, hfirst] at hquoted
    contradiction
  · have hquoted := isQuoted_quotedBy d first
    rw [← hf, h, hs, hsecond] at hquoted
    contradiction
  · rw [hf, hs] at h
    exact Text.quotedBy_injective h

end SchemaScript.Dialect
