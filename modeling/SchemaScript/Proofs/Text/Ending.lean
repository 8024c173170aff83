import SchemaScript.Text.Blank
import Mathlib.Data.List.DropRight

/-! What dropping characters off the end of a text leaves. It takes everything off that follows the
last character to be kept, and what is left does not end in a character to be dropped. -/

namespace SchemaScript.Text

variable {p : Char → Bool} {s t : String}

theorem toList_dropEndWhile (p : Char → Bool) (s : String) :
    (dropEndWhile p s).toList = s.toList.rdropWhile p := String.toList_ofList

theorem exists_dropEndWhile (p : Char → Bool) (s : String) :
    ∃ back, (∀ c ∈ back.toList, p c = true) ∧ s = dropEndWhile p s ++ back := by
  refine ⟨.ofList (s.toList.rtakeWhile p), ?_, ?_⟩
  · rw [String.toList_ofList]
    exact fun c => List.mem_rtakeWhile_imp
  · rw [← String.toList_inj, String.toList_append, toList_dropEndWhile, String.toList_ofList,
      List.rdropWhile_append_rtakeWhile]

theorem getLast?_dropEndWhile {c : Char} (h : (dropEndWhile p s).toList.getLast? = some c) :
    p c = false := by
  rw [toList_dropEndWhile] at h
  obtain ⟨hne, rfl⟩ := List.mem_getLast?_eq_getLast h
  simpa using List.rdropWhile_last_not p s.toList hne

theorem dropEndWhile_eq_self (h : ∀ c, s.toList.getLast? = some c → p c = false) :
    dropEndWhile p s = s := by
  rw [← String.toList_inj, toList_dropEndWhile, List.rdropWhile_eq_self_iff]
  intro hne
  rw [h _ (List.getLast?_eq_some_getLast hne)]
  decide

theorem dropEndWhile_append (h : ∀ c ∈ t.toList, p c = true) (s : String) :
    dropEndWhile p (s ++ t) = dropEndWhile p s := by
  rw [dropEndWhile, dropEndWhile, String.toList_append, List.reverse_append,
    List.dropWhile_append_of_pos fun c hc => h c (List.mem_reverse.1 hc)]

theorem length_dropEndWhile_le (p : Char → Bool) (s : String) :
    (dropEndWhile p s).length ≤ s.length := by
  rw [← String.length_toList, ← String.length_toList, toList_dropEndWhile]
  exact (List.rdropWhile_prefix p s.toList).length_le

end SchemaScript.Text
