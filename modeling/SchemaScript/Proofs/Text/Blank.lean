import SchemaScript.Proofs.Text.Ending
import SchemaScript.Text.Upper
import Mathlib.Data.List.TakeWhile

/-! What trimming leaves of a text, and texts of which nothing is left. Trimming takes blank text
off both ends; it leaves nothing of a blank text and something of every other, and upper case never
makes a character vanish. -/

namespace SchemaScript.Text

theorem exists_trimStart (s : String) :
    ∃ front, isBlank front = true ∧ s = front ++ trimStart s := by
  refine ⟨.ofList (s.toList.takeWhile isBlankChar), ?_, ?_⟩
  · rw [isBlank, String.toList_ofList, List.all_takeWhile]
  · rw [trimStart, ← String.ofList_append, List.takeWhile_append_dropWhile, String.ofList_toList]

theorem exists_trimEnd (s : String) : ∃ back, isBlank back = true ∧ s = trimEnd s ++ back := by
  obtain ⟨back, hback, htext⟩ := exists_dropEndWhile isBlankChar s
  exact ⟨back, List.all_eq_true.2 hback, htext⟩

theorem exists_trim (s : String) :
    ∃ front back, isBlank front = true ∧ isBlank back = true ∧ s = front ++ trim s ++ back := by
  obtain ⟨front, hfront, hstart⟩ := exists_trimStart s
  obtain ⟨back, hback, hend⟩ := exists_trimEnd (trimStart s)
  refine ⟨front, back, hfront, hback, ?_⟩
  rw [trim, String.append_assoc, ← hend, ← hstart]

theorem notMem_trim {c : Char} {s : String} (h : c ∉ s.toList) : c ∉ (trim s).toList := by
  obtain ⟨front, back, -, -, htext⟩ := exists_trim s
  intro hc
  rw [htext] at h
  exact h (by simp [hc])

theorem isBlank_trimStart (s : String) : isBlank (trimStart s) = isBlank s := by
  have hsplit := List.takeWhile_append_dropWhile (p := isBlankChar) (l := s.toList)
  rw [isBlank, isBlank, trimStart, String.toList_ofList, ← hsplit, List.all_append,
    List.all_takeWhile, Bool.true_and, hsplit]

/-- Behind a character that is not blank, only the rest is trimmed. -/
theorem trimEnd_append {s : String} {c : Char} (h : s.toList.getLast? = some c)
    (hc : isBlankChar c = false) (t : String) : trimEnd (s ++ t) = s ++ trimEnd t := by
  obtain ⟨front, hlist⟩ := List.getLast?_eq_some_iff.1 h
  have hstop : s.toList.reverse.dropWhile isBlankChar = s.toList.reverse := by
    rw [hlist, List.reverse_append, List.reverse_singleton, List.singleton_append,
      List.dropWhile_cons_of_neg (by simp [hc])]
  rw [trimEnd, dropEndWhile, String.toList_append, List.reverse_append, List.dropWhile_append,
    hstop, trimEnd, dropEndWhile]
  split
  next hblank => simp [List.isEmpty_iff.1 hblank]
  next => simp

theorem isBlank_trimEnd (s : String) : isBlank (trimEnd s) = isBlank s := by
  obtain ⟨back, hback, htext⟩ := exists_trimEnd s
  have hparts := isBlank_append (trimEnd s) back
  rw [← htext, hback, Bool.and_true] at hparts
  exact hparts.symm

theorem trimEnd_eq_empty_iff (s : String) : trimEnd s = "" ↔ isBlank s = true := by
  rw [trimEnd, dropEndWhile, isBlank, String.ofList_eq_empty_iff, List.reverse_eq_nil_iff,
    List.dropWhile_eq_nil_iff, List.all_eq_true]
  simp

theorem trim_eq_empty_iff (s : String) : trim s = "" ↔ isBlank s = true := by
  rw [trim, trimEnd_eq_empty_iff, isBlank_trimStart]

/-! ### Blank text at either end -/

theorem trimEnd_append_of_isBlank {t : String} (h : isBlank t = true) (s : String) :
    trimEnd (s ++ t) = trimEnd s := dropEndWhile_append (List.all_eq_true.1 h) s

theorem trimStart_append {s : String} (h : isBlank s = false) (t : String) :
    trimStart (s ++ t) = trimStart s ++ t := by
  have hne : (s.toList.dropWhile isBlankChar).isEmpty = false := by
    rw [List.isEmpty_eq_false_iff, ne_eq, List.dropWhile_eq_nil_iff, ← List.all_eq_true]
    exact ne_true_of_eq_false h
  rw [trimStart, String.toList_append, List.dropWhile_append, hne, if_neg (by decide),
    String.ofList_append, trimStart, String.ofList_toList]

theorem trim_append_of_isBlank {t : String} (h : isBlank t = true) (s : String) :
    trim (s ++ t) = trim s := by
  cases hs : isBlank s with
  | true =>
    have hst : isBlank (s ++ t) = true := by rw [isBlank_append, hs, h]; rfl
    rw [(trim_eq_empty_iff _).2 hst, (trim_eq_empty_iff _).2 hs]
  | false => rw [trim, trim, trimStart_append hs, trimEnd_append_of_isBlank h]

theorem trimStart_append_of_isBlank {front : String} (h : isBlank front = true) (s : String) :
    trimStart (front ++ s) = trimStart s := by
  rw [trimStart, String.toList_append, List.dropWhile_append_of_pos (List.all_eq_true.1 h),
    trimStart]

theorem trim_trim (s : String) : trim (trim s) = trim s := by
  obtain ⟨front, back, hfront, hback, htext⟩ := exists_trim s
  have hsame : trim (front ++ trim s ++ back) = trim (trim s) := by
    rw [trim_append_of_isBlank hback, trim, trimStart_append_of_isBlank hfront, ← trim]
  rw [← hsame, ← htext]

theorem isBlank_trim (s : String) : isBlank (trim s) = isBlank s := by
  rw [trim, isBlank_trimEnd, isBlank_trimStart]

/-! ### Text that is not blank -/

/-- Where neither end is blank there is nothing to take off. -/
theorem trim_eq_self {s : String} (hhead : ∀ c, s.toList.head? = some c → isBlankChar c = false)
    (hlast : ∀ c, s.toList.getLast? = some c → isBlankChar c = false) : trim s = s := by
  have hstart : trimStart s = s := by
    rw [← String.toList_inj, trimStart, String.toList_ofList]
    cases hlist : s.toList with
    | nil => rfl
    | cons c rest =>
      have hc : isBlankChar c = false := hhead c (by rw [hlist, List.head?_cons])
      exact List.dropWhile_cons_of_neg (by simp [hc])
  rw [trim, hstart, trimEnd, dropEndWhile_eq_self hlast]

theorem trim_of_forall {s : String} (h : ∀ c ∈ s.toList, isBlankChar c = false) : trim s = s :=
  trim_eq_self (fun c hc => h c (List.mem_of_head? hc)) fun c hc => h c (List.mem_of_getLast? hc)

theorem isBlankChar_of_isDigit {c : Char} (hc : c.isDigit = true) : isBlankChar c = false := by
  have hrange : 48 ≤ c.toNat ∧ c.toNat ≤ 57 := by
    simpa [Char.isDigit, UInt32.le_iff_toNat_le] using hc
  simp [isBlankChar]
  omega

theorem upperByTable_ne_nil (c : Char) : upperByTable c ≠ [] := by
  have hsequences : ∀ e ∈ upperSequences, e.2 ≠ [] := by decide
  unfold upperByTable
  cases hlookup : upperSequences.lookup c.toNat with
  | some codes =>
    obtain ⟨before, after, hlist, -⟩ := List.lookup_eq_some_iff.1 hlookup
    have hmem : (c.toNat, codes) ∈ upperSequences := by simp [hlist]
    simpa using hsequences _ hmem
  | none => cases upperRuns.find? (·.holds c.toNat) <;> simp

theorem upper_eq_empty_iff (s : String) : upper s = "" ↔ s = "" := by
  have hchar : ∀ c, upperChar c ≠ [] := by
    intro c
    unfold upperChar
    split
    · simp
    · exact upperByTable_ne_nil c
  rw [upper, String.ofList_eq_empty_iff, List.flatMap_eq_nil_iff]
  constructor
  · intro h
    rw [← String.toList_eq_nil_iff, List.eq_nil_iff_forall_not_mem]
    exact fun c hc => hchar c (h c hc)
  · rintro rfl
    simp

/-- Of a name that is trimmed and put in capitals, nothing is left if it was blank. -/
theorem upper_trim_eq_empty_iff (s : String) : upper (trim s) = "" ↔ isBlank s = true := by
  rw [upper_eq_empty_iff, trim_eq_empty_iff]

end SchemaScript.Text
