import SchemaScript.Proofs.Constraint.Place
import SchemaScript.Proofs.Table.Faults

/-! Which entry a fault of a constraint names. An entry that cannot be named is given by its place.
A constraint that has no clause is given by its number among the merged constraints, and that is
another place as soon as an entry before it repeats a name. -/

namespace SchemaScript.Table

open Constraint (Called IsCulprit IsNameless IsNew KindlessAt distinctBefore)

variable {d : Dialect} {t : Table} {index : Nat}

/-- What a fault names: an entry that cannot be named, or the number of the first constraint that
has no clause. -/
theorem culprit_of_create (h : create d t = .error (.constraintWithoutKind index)) :
    (∃ before c, IsFirst IsNameless t.constraints before c ∧ index = before.length) ∨
      ∃ names place, Called t.constraints names ∧ IsCulprit t.constraints names place ∧
        index = distinctBefore names place := by
  rcases create_eq_error_iff.1 h with ⟨_, c, -, hconflict⟩ |
    ⟨-, ⟨before, c, hfirst, hindex⟩ | ⟨merged, before, c, hmerged, hfirst, hindex⟩⟩
  · cases hconflict
  · exact .inl ⟨before, c, hfirst, StatementError.constraintWithoutKind.inj hindex⟩
  · obtain rfl := StatementError.constraintWithoutKind.inj hindex
    obtain ⟨names, hnames, rfl⟩ := (Constraint.merge_eq_ok_iff _ _).1 hmerged
    obtain ⟨place, hculprit, hplace⟩ := Constraint.exists_isCulprit hnames.1 hfirst
    exact .inr ⟨names, place, hnames, hculprit, hplace⟩

theorem kindlessAt_number_iff {names : List String} {place : Nat}
    (h : IsCulprit t.constraints names place) :
    KindlessAt t.constraints (distinctBefore names place) ↔
      distinctBefore names place = place ∨
        ¬IsNew names (distinctBefore names place) ∧
          KindlessAt t.constraints (distinctBefore names place) := by
  constructor
  · intro hkindless
    by_cases hnew : IsNew names (distinctBefore names place)
    · rcases Nat.lt_or_eq_of_le (Constraint.distinctBefore_le names place) with hlt | heq
      · exact absurd hkindless (h.earlier _ hlt hnew)
      · exact .inl heq
    · exact .inr ⟨hnew, hkindless⟩
  · rintro (heq | ⟨-, hkindless⟩)
    · rw [heq]
      exact h.kindless
    · exact hkindless

/-- The number in a fault is the place of an entry that cannot be named, or else it counts the
different names before the entry at fault, which is the first new name without a kind. It is then
the place of that entry exactly when no entry before it repeats a name, and too small otherwise; an
entry without a kind is there only in the first case, or when it happens to repeat a name. -/
theorem create_faultPlace (h : create d t = .error (.constraintWithoutKind index)) :
    (KindlessAt t.constraints index ∧
        ∃ before c, IsFirst IsNameless t.constraints before c ∧ index = before.length) ∨
      ∃ names place, Called t.constraints names ∧ IsCulprit t.constraints names place ∧
        index = distinctBefore names place ∧ index ≤ place ∧
        (index = place ↔ (names.take place).Nodup) ∧
        (KindlessAt t.constraints index ↔
          (names.take place).Nodup ∨ ¬IsNew names index ∧ KindlessAt t.constraints index) := by
  rcases culprit_of_create h with ⟨before, c, hfirst, rfl⟩ | ⟨names, place, hnames, hculprit, rfl⟩
  · refine .inl ⟨⟨c, ?_, hfirst.holds.2⟩, before, c, hfirst, rfl⟩
    obtain ⟨after, hlist, -, -⟩ := hfirst
    simp [hlist]
  · have hlt : place < names.length := by
      obtain ⟨name, hname, -⟩ := hculprit.isNew
      exact (List.getElem?_eq_some_iff.1 hname).1
    have hplace := Constraint.distinctBefore_eq_iff (Nat.le_of_lt hlt)
    refine .inr ⟨names, place, hnames, hculprit, rfl, Constraint.distinctBefore_le names place,
      hplace, ?_⟩
    rw [← hplace]
    exact kindlessAt_number_iff hculprit

/-- Two entries of one constraint, then a constraint without a kind. -/
def mergedThenKindless : Table where
  name := "STOCK"
  constraints := [
    .onColumn (some "UQ_ITEM") .unique "SHOP",
    .onColumn (some "UQ_ITEM") .unique "ITEM",
    { name := some "CK_AMOUNT", check := some "AMOUNT > 0" }]

/-- The third entry is at fault, and it is the second constraint. -/
theorem create_faultPlace_stock :
    create {} mergedThenKindless = .error (.constraintWithoutKind 1) ∧
      ∃ names place, Called mergedThenKindless.constraints names ∧
        IsCulprit mergedThenKindless.constraints names place ∧ 1 = distinctBefore names place ∧
        ¬(names.take place).Nodup := by
  have hcreate : create {} mergedThenKindless = .error (.constraintWithoutKind 1) := by
    decide +kernel
  have hkind : ¬KindlessAt mergedThenKindless.constraints 1 := by
    rintro ⟨c, hc, hkind⟩
    cases hc
    contradiction
  refine ⟨hcreate, ?_⟩
  rcases create_faultPlace hcreate with ⟨hkindless, -⟩ |
    ⟨names, place, hnames, hculprit, hindex, -, -, hiff⟩
  · exact absurd hkindless hkind
  · exact ⟨names, place, hnames, hculprit, hindex, fun hnodup => hkind (hiff.2 (.inl hnodup))⟩

/-- The fault names an entry of the constraint before. -/
theorem create_faultPlace_misses :
    create {} mergedThenKindless = .error (.constraintWithoutKind 1) ∧
      ¬KindlessAt mergedThenKindless.constraints 1 ∧
      KindlessAt mergedThenKindless.constraints 2 := by
  refine ⟨by decide +kernel, ?_, _, rfl, rfl⟩
  rintro ⟨c, hc, hkind⟩
  cases hc
  contradiction

end SchemaScript.Table
