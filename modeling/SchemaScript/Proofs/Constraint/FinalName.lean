import SchemaScript.Constraint.Clause
import SchemaScript.Proofs.Dialect.Identifier
import SchemaScript.Proofs.Text.Numeral
import SchemaScript.Proofs.Text.Replace

/-! Made-up names with the name of the table in them. They begin with the letter of their kind and
end with a digit, so they never look quoted, and they differ from one another and from the name of
the key that a table gets on its own. -/

namespace SchemaScript

namespace ConstraintKind

/-- The capital that made-up names of this kind begin with. -/
def letter : ConstraintKind → Char
  | primaryKey => 'P'
  | foreignKey => 'F'
  | unique => 'U'
  | check => 'C'

theorem letter_injective {first second : ConstraintKind} (h : first.letter = second.letter) :
    first = second := by
  cases first <;> cases second <;> first | rfl | exact absurd h (by decide)

theorem isDigit_letter (kind : ConstraintKind) : kind.letter.isDigit = false := by
  cases kind <;> rfl

theorem letter_ne (kind : ConstraintKind) : kind.letter ≠ 'K' := by
  cases kind <;> decide

theorem head?_nameStart (kind : ConstraintKind) :
    kind.nameStart.toList.head? = some kind.letter := by
  cases kind <;> rfl

/-- A made-up name as it stands in the definition of its table. -/
def numberedName (kind : ConstraintKind) (table : String) (n : Nat) : String :=
  kind.nameStart ++ "_" ++ table ++ ("_" ++ Nat.repr n)

theorem head?_numberedName (kind : ConstraintKind) (table : String) (n : Nat) :
    (kind.numberedName table n).toList.head? = some kind.letter := by
  simp [numberedName, head?_nameStart, List.head?_append]

theorem getLast?_numberedName (kind : ConstraintKind) (table : String) (n : Nat) :
    ∃ c, (kind.numberedName table n).toList.getLast? = some c ∧ c.isDigit = true := by
  have hne : (Nat.repr n).toList ≠ [] := by
    rw [Nat.toList_repr]
    exact Nat.toDigits_ne_nil
  refine ⟨(Nat.repr n).toList.getLast hne, ?_, Text.isDigit_of_mem_repr (List.getLast_mem hne)⟩
  rw [numberedName, ← String.append_assoc, String.toList_append,
    List.getLast?_append, List.getLast?_eq_some_getLast hne, Option.some_or]

theorem numberedName_injective {first second : ConstraintKind} {table : String} {m n : Nat}
    (h : first.numberedName table m = second.numberedName table n) : first = second ∧ m = n := by
  have hletter := head?_numberedName first table m
  rw [h, head?_numberedName] at hletter
  obtain rfl := letter_injective (Option.some.inj hletter)
  refine ⟨rfl, ?_⟩
  have hdigits := congrArg String.toList h
  simp only [numberedName, String.toList_append] at hdigits
  have hsame := List.append_cancel_left (List.append_cancel_left hdigits)
  rw [Nat.toList_repr, Nat.toList_repr] at hsame
  have hvalue := congrArg (Nat.ofDigitChars 10 · 0) hsame
  simpa [Nat.ofDigitChars_ten_toDigits] using hvalue

theorem isQuoted_numberedName (d : Dialect) (kind : ConstraintKind) (table : String) (n : Nat) :
    d.isQuoted (kind.numberedName table n) = false := by
  obtain ⟨c, hlast, hc⟩ := getLast?_numberedName kind table n
  by_cases h : kind.letter = d.quote
  · refine Dialect.isQuoted_eq_false_of_getLast? hlast ?_
    rintro rfl
    rw [← h, isDigit_letter] at hc
    contradiction
  · exact Dialect.isQuoted_eq_false_of_head? (head?_numberedName kind table n) h

/-- No made-up name for another kind of constraint is written like that of the key. Where the
letter of the key is the quotation mark, the name of the key may look quoted. -/
theorem identifier_numberedName_ne {d : Dialect} {kind : ConstraintKind} (h : kind ≠ .primaryKey)
    (table : String) (n : Nat) :
    d.identifier (kind.numberedName table n) ≠ d.identifier ("PK_" ++ table) := by
  have hkey : ("PK_" ++ table).toList = 'P' :: 'K' :: '_' :: table.toList := by simp
  have hletter : kind.letter ≠ 'P' := fun hsame => h (letter_injective hsame)
  have hquoted := isQuoted_numberedName d kind table n
  obtain ⟨tail, hname⟩ := List.head?_eq_some_iff.1 (head?_numberedName kind table n)
  intro hsame
  by_cases hkeyQuoted : d.isQuoted ("PK_" ++ table) = true
  · have hquote : d.quote = 'P' := by
      simp only [Dialect.isQuoted, hkey, Bool.and_eq_true] at hkeyQuoted
      exact (Option.some.inj (beq_iff_eq.1 hkeyQuoted.1.2)).symm
    rw [Dialect.identifier_of_isQuoted hkeyQuoted] at hsame
    rcases Dialect.identifier_eq_or hquoted with hplain | hmarked
    · rw [← hsame, hplain, hname] at hkey
      exact hletter (List.cons.inj hkey).1
    · rw [← hsame, hmarked, hquote, Text.quotedBy, String.toList_ofList, hname, Text.doubleMarks,
        if_neg hletter] at hkey
      exact letter_ne kind (List.cons.inj (List.cons.inj hkey).2).1
  · rw [Bool.not_eq_true] at hkeyQuoted
    rw [Dialect.identifier_injective hquoted hkeyQuoted hsame, hkey] at hname
    exact hletter (List.cons.inj hname).1.symm

end ConstraintKind

namespace Constraint

open ConstraintKind

/-- Writing the table's name into a made-up name leaves the kind and the number as they are. -/
theorem finalName_newName (table : String) (kind : ConstraintKind) (existing : List String) :
    finalName table (kind.newName existing) =
      kind.numberedName table (maxSuffix kind.stem existing + 1) := by
  have hbefore : '<' ∉ (kind.nameStart ++ "_").toList := by
    cases kind <;> decide
  have hafter : '<' ∉ ("_" ++ Nat.repr (maxSuffix kind.stem existing + 1)).toList := by
    intro h
    rw [String.toList_append, List.mem_append] at h
    rcases h with h | h
    · exact absurd h (by decide)
    · exact absurd (Text.isDigit_of_mem_repr h) (by decide)
  have hmark : tableNameMark.toList = '<' :: "TABLE_NAME>".toList := rfl
  rw [numberedName, ← Text.replace_append_append hmark hbefore hafter, finalName, newName, nextName,
    stem]
  simp only [String.append_assoc]

/-- Different made-up names are written differently. -/
theorem identifier_newName_injective {d : Dialect} {table : String} {first second : ConstraintKind}
    {taken taken' : List String}
    (h : d.identifier (finalName table (first.newName taken)) =
      d.identifier (finalName table (second.newName taken'))) :
    first.newName taken = second.newName taken' := by
  rw [finalName_newName, finalName_newName] at h
  obtain ⟨rfl, hnumber⟩ := numberedName_injective (Dialect.identifier_injective
    (isQuoted_numberedName d _ _ _) (isQuoted_numberedName d _ _ _) h)
  rw [newName, newName, nextName, nextName, hnumber]

end Constraint

end SchemaScript
