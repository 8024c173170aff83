import SchemaScript.StatementError
import Mathlib.Data.List.Forall2

/-! Statements that are made in steps. One that succeeds has succeeded in every step, and over a
list, at every element; one that fails does so as its first element that fails. -/

namespace SchemaScript

variable {α β ε : Type}

theorem bind_eq_ok_iff {first : Except ε α} {next : α → Except ε β} {result : β} :
    first >>= next = .ok result ↔ ∃ value, first = .ok value ∧ next value = .ok result := by
  cases first with
  | error e => simp [bind, Except.bind]
  | ok value => simp [bind, Except.bind]

theorem bind_eq_error_iff {first : Except ε α} {next : α → Except ε β} {reason : ε} :
    first >>= next = .error reason ↔
      first = .error reason ∨ ∃ value, first = .ok value ∧ next value = .error reason := by
  cases first with
  | error e => simp [bind, Except.bind]
  | ok value => simp [bind, Except.bind]

theorem mapError_eq_ok_iff {ε' : Type} {first : Except ε α} {f : ε → ε'} {result : α} :
    first.mapError f = .ok result ↔ first = .ok result := by
  cases first <;> simp [Except.mapError]

theorem mapM_eq_ok_iff {f : α → Except ε β} {list : List α} {results : List β} :
    list.mapM f = .ok results ↔ List.Forall₂ (fun a b => f a = .ok b) list results := by
  induction list generalizing results with
  | nil => simp [pure, Except.pure, eq_comm]
  | cons a rest ih =>
    simp only [List.mapM_cons, bind_eq_ok_iff, ih, List.forall₂_cons_left_iff]
    constructor
    · rintro ⟨b, hb, bs, hbs, hresults⟩
      exact ⟨b, bs, hb, hbs, (Except.ok.inj hresults).symm⟩
    · rintro ⟨b, bs, hb, hbs, rfl⟩
      exact ⟨b, hb, bs, hbs, rfl⟩

theorem exists_of_mem_mapM {f : α → Except ε β} {list : List α} {results : List β}
    (h : list.mapM f = .ok results) {b : β} (hb : b ∈ results) : ∃ a ∈ list, f a = .ok b := by
  have hall := mapM_eq_ok_iff.1 h
  obtain ⟨i, hi, rfl⟩ := List.getElem_of_mem hb
  have hlist : i < list.length := hall.length_eq ▸ hi
  exact ⟨list[i], List.getElem_mem hlist, hall.get hlist hi⟩

/-- The first element for which `f` has no result is one that fails with `reason`. -/
def FirstFailure (f : α → Except ε β) (list : List α) (reason : ε) : Prop :=
  ∃ before bad after, list = before ++ bad :: after ∧
    (∀ a ∈ before, ∃ b, f a = .ok b) ∧ f bad = .error reason

section

variable {f : α → Except ε β} {a : α} {list : List α} {reason : ε}

theorem firstFailure_cons_of_error {failure : ε} (h : f a = .error failure) :
    FirstFailure f (a :: list) reason ↔ failure = reason := by
  constructor
  · rintro ⟨before, bad, after, hlist, hbefore, hbad⟩
    cases before with
    | nil =>
      obtain ⟨rfl, -⟩ := List.cons.inj hlist
      exact Except.error.inj (h.symm.trans hbad)
    | cons first before =>
      obtain ⟨rfl, -⟩ := List.cons.inj hlist
      obtain ⟨b, hb⟩ := hbefore a List.mem_cons_self
      exact nomatch h.symm.trans hb
  · rintro rfl
    exact ⟨[], a, list, rfl, by simp, h⟩

theorem firstFailure_cons_of_ok {b : β} (h : f a = .ok b) :
    FirstFailure f (a :: list) reason ↔ FirstFailure f list reason := by
  constructor
  · rintro ⟨before, bad, after, hlist, hbefore, hbad⟩
    cases before with
    | nil =>
      obtain ⟨rfl, -⟩ := List.cons.inj hlist
      exact nomatch h.symm.trans hbad
    | cons first before =>
      obtain ⟨rfl, hrest⟩ := List.cons.inj hlist
      exact ⟨before, bad, after, hrest, fun x hx => hbefore x (List.mem_cons_of_mem a hx), hbad⟩
  · rintro ⟨before, bad, after, rfl, hbefore, hbad⟩
    exact ⟨a :: before, bad, after, rfl, List.forall_mem_cons.2 ⟨⟨b, h⟩, hbefore⟩, hbad⟩

theorem mapM_eq_error_iff : list.mapM f = .error reason ↔ FirstFailure f list reason := by
  induction list with
  | nil => simp [FirstFailure, pure, Except.pure]
  | cons a rest ih =>
    rw [List.mapM_cons]
    cases ha : f a with
    | error failure =>
      rw [firstFailure_cons_of_error ha]
      simp [bind, Except.bind]
    | ok b =>
      rw [firstFailure_cons_of_ok ha, ← ih]
      cases rest.mapM f <;> simp [bind, Except.bind, pure, Except.pure]

theorem exists_firstFailure (ha : a ∈ list) (h : f a = .error reason) :
    ∃ first, FirstFailure f list first := by
  cases hmap : list.mapM f with
  | error first => exact ⟨first, mapM_eq_error_iff.1 hmap⟩
  | ok results =>
    have hall := mapM_eq_ok_iff.1 hmap
    obtain ⟨i, hi, rfl⟩ := List.getElem_of_mem ha
    exact nomatch h.symm.trans (hall.get hi (hall.length_eq ▸ hi))

end

/-! ### The first element with a property -/

/-- `a` is the first element of the list with the property, and `before` is what stands in front of
it. -/
def IsFirst (P : α → Prop) (list before : List α) (a : α) : Prop :=
  ∃ after, list = before ++ a :: after ∧ (∀ b ∈ before, ¬P b) ∧ P a

section

variable {P : α → Prop} {a : α} {list : List α}

theorem IsFirst.holds {before : List α} (h : IsFirst P list before a) : P a := by
  obtain ⟨after, -, -, ha⟩ := h
  exact ha

theorem not_isFirst_nil {before : List α} : ¬IsFirst P [] before a := by
  rintro ⟨after, hlist, -⟩
  simp at hlist

theorem isFirst_cons_of {before : List α} {b : α} (h : P a) :
    IsFirst P (a :: list) before b ↔ before = [] ∧ b = a := by
  constructor
  · rintro ⟨after, hlist, hbefore, -⟩
    cases before with
    | nil => exact ⟨rfl, (List.cons.inj hlist).1.symm⟩
    | cons first before =>
      obtain ⟨rfl, -⟩ := List.cons.inj hlist
      exact absurd h (hbefore a List.mem_cons_self)
  · rintro ⟨rfl, rfl⟩
    exact ⟨list, rfl, by simp, h⟩

theorem isFirst_cons_of_not {before : List α} {b : α} (h : ¬P a) :
    IsFirst P (a :: list) before b ↔ ∃ others, before = a :: others ∧ IsFirst P list others b := by
  constructor
  · rintro ⟨after, hlist, hbefore, hb⟩
    cases before with
    | nil =>
      obtain ⟨rfl, -⟩ := List.cons.inj hlist
      exact absurd hb h
    | cons first before =>
      obtain ⟨rfl, hrest⟩ := List.cons.inj hlist
      exact ⟨before, rfl, after, hrest, (List.forall_mem_cons.1 hbefore).2, hb⟩
  · rintro ⟨others, rfl, after, rfl, hothers, hb⟩
    exact ⟨after, rfl, List.forall_mem_cons.2 ⟨h, hothers⟩, hb⟩

theorem exists_isFirst_iff : (∃ before a, IsFirst P list before a) ↔ ∃ a ∈ list, P a := by
  constructor
  · rintro ⟨before, a, after, rfl, -, ha⟩
    exact ⟨a, by simp, ha⟩
  · induction list with
    | nil => simp
    | cons b rest ih =>
      intro h
      by_cases hb : P b
      · exact ⟨[], b, (isFirst_cons_of hb).2 ⟨rfl, rfl⟩⟩
      · obtain ⟨before, a, hfirst⟩ := ih (by simpa [hb] using h)
        exact ⟨b :: before, a, (isFirst_cons_of_not hb).2 ⟨before, rfl, hfirst⟩⟩

theorem exists_isFirst_cons_iff {Q : α → Prop} :
    (∃ before b, IsFirst P (a :: list) before b ∧ Q b) ↔
      P a ∧ Q a ∨ ¬P a ∧ ∃ before b, IsFirst P list before b ∧ Q b := by
  by_cases ha : P a
  · simp [isFirst_cons_of ha, ha]
  · simp only [isFirst_cons_of_not ha, ha, false_and, false_or, not_false_eq_true, true_and]
    constructor
    · rintro ⟨_, b, ⟨others, rfl, hfirst⟩, hb⟩
      exact ⟨others, b, hfirst, hb⟩
    · rintro ⟨others, b, hfirst, hb⟩
      exact ⟨a :: others, b, ⟨others, rfl, hfirst⟩, hb⟩

/-- Of two lists in a row, the second counts only when nothing in the first has the property. -/
theorem exists_isFirst_append_iff {first second : List α} {Q : α → Prop} :
    (∃ before a, IsFirst P (first ++ second) before a ∧ Q a) ↔
      (∃ before a, IsFirst P first before a ∧ Q a) ∨
        (∀ a ∈ first, ¬P a) ∧ ∃ before a, IsFirst P second before a ∧ Q a := by
  induction first with
  | nil => simp [not_isFirst_nil]
  | cons b rest ih =>
    rw [List.cons_append, exists_isFirst_cons_iff, exists_isFirst_cons_iff, ih, List.forall_mem_cons,
      and_or_left, or_assoc, and_assoc]

/-- A list fails as the first of the elements that fail. -/
theorem mapM_eq_error_iff_isFirst {f : α → Except ε β} {reason : ε}
    (hP : ∀ a, P a ↔ ∃ reason, f a = .error reason) :
    list.mapM f = .error reason ↔ ∃ before a, IsFirst P list before a ∧ f a = .error reason := by
  have hok : ∀ a, ¬P a ↔ ∃ b, f a = .ok b := by
    intro a
    rw [hP]
    cases f a <;> simp
  rw [mapM_eq_error_iff]
  constructor
  · rintro ⟨before, a, after, hlist, hbefore, ha⟩
    have hsound : ∀ b ∈ before, ¬P b := fun b hb => (hok b).2 (hbefore b hb)
    exact ⟨before, a, ⟨after, hlist, hsound, (hP a).2 ⟨reason, ha⟩⟩, ha⟩
  · rintro ⟨before, a, ⟨after, hlist, hbefore, -⟩, ha⟩
    exact ⟨before, a, after, hlist, fun b hb => (hok b).1 (hbefore b hb), ha⟩

end

end SchemaScript
