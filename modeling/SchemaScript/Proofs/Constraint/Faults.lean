import SchemaScript.Constraint.Clause
import SchemaScript.Proofs.Constraint.Grouping

/-! Which constraints cannot be written. An entry without a name needs a kind, so that a name can be
made up for it. A merged constraint needs one for its clause, and has the kind of the first of its
entries, whatever the others bring. -/

namespace SchemaScript.Constraint

variable {entries : List Constraint} {names : List String} {reason : StatementError}

/-! ### Entries that cannot be named -/

def IsNameless (c : Constraint) : Prop := c.name? = none ∧ c.kind = none

/-- What a fault says of the first place that counts, when the places before it are counted from one
place further on. -/
theorem exists_isFirst_cons {P : Constraint → Prop} {c : Constraint} (h : ¬P c)
    (rest : List Constraint) (index : Nat) :
    (∃ before d, IsFirst P (c :: rest) before d ∧
        reason = .constraintWithoutKind (index + before.length)) ↔
      ∃ before d, IsFirst P rest before d ∧
        reason = .constraintWithoutKind (index + 1 + before.length) := by
  simp only [isFirst_cons_of_not h]
  constructor
  · rintro ⟨_, d, ⟨before, rfl, hfirst⟩, rfl⟩
    exact ⟨before, d, hfirst, by rw [List.length_cons, Nat.add_right_comm, Nat.add_assoc]⟩
  · rintro ⟨before, d, hfirst, rfl⟩
    exact ⟨c :: before, d, ⟨before, rfl, hfirst⟩,
      by rw [List.length_cons, Nat.add_right_comm, Nat.add_assoc]⟩

theorem nameFrom_eq_error_iff (rest : List Constraint) (taken : List String) (index : Nat) :
    nameFrom taken index rest = .error reason ↔
      ∃ before c, IsFirst IsNameless rest before c ∧
        reason = .constraintWithoutKind (index + before.length) := by
  induction rest generalizing taken index with
  | nil => simp [nameFrom, not_isFirst_nil]
  | cons c rest ih =>
    rw [nameFrom]
    cases hname : c.name? with
    | some name =>
      rw [exists_isFirst_cons (by simp [IsNameless, hname])]
      simp [bind_eq_error_iff, ih]
    | none =>
      cases hkind : c.kind with
      | none => simp [isFirst_cons_of (P := IsNameless) ⟨hname, hkind⟩, eq_comm]
      | some kind =>
        rw [exists_isFirst_cons (by simp [IsNameless, hkind])]
        simp [bind_eq_error_iff, ih]

/-- Merging fails only where an entry cannot be named. -/
theorem merge_eq_error_iff :
    merge entries = .error reason ↔
      ∃ before c, IsFirst IsNameless entries before c ∧
        reason = .constraintWithoutKind before.length := by
  simp [merge, bind_eq_error_iff, nameAll, nameFrom_eq_error_iff]

/-! ### Constraints without a clause -/

theorem clause_eq_error_iff {d : Dialect} {table : String} {index : Nat} {c : Constraint}
    (h : c.name? ≠ none) :
    c.clause d table index = .error reason ↔
      c.kind = none ∧ reason = .constraintWithoutKind index := by
  obtain ⟨name, hname⟩ := Option.ne_none_iff_exists'.1 h
  rw [clause, hname]
  cases c.kind <;> simp [eq_comm]

/-- The clauses of constraints that are counted from `index` on. -/
theorem mapM_clause_eq_error_iff {d : Dialect} {table : String} (constraints : List Constraint)
    (h : ∀ c ∈ constraints, c.name? ≠ none) (index : Nat) :
    ((constraints.zipIdx index).mapM fun numbered => numbered.1.clause d table numbered.2) =
        .error reason ↔
      ∃ before c, IsFirst (·.kind = none) constraints before c ∧
        reason = .constraintWithoutKind (index + before.length) := by
  induction constraints generalizing index with
  | nil => simp [not_isFirst_nil, pure, Except.pure]
  | cons c rest ih =>
    obtain ⟨hname, hrest⟩ := List.forall_mem_cons.1 h
    rw [List.zipIdx_cons, List.mapM_cons]
    cases hclause : c.clause d table index with
    | error failure =>
      obtain ⟨hkind, rfl⟩ := (clause_eq_error_iff hname).1 hclause
      simp [isFirst_cons_of (P := fun d : Constraint => d.kind = none) hkind, bind, Except.bind,
        eq_comm]
    | ok text =>
      have hkind : ¬c.kind = none := by
        intro hkind
        exact nomatch hclause.symm.trans ((clause_eq_error_iff hname).2 ⟨hkind, rfl⟩)
      rw [exists_isFirst_cons hkind, ← ih hrest]
      simp [bind_eq_error_iff, pure, Except.pure]

/-! ### The kind of a merged constraint -/

/-- The entry has no kind, and is the first of those that go by its name. -/
def LeadsWithoutKind (entries : List Constraint) (first : Constraint) : Prop :=
  first.kind = none ∧ ∃ names name, Called entries names ∧
    (entriesCalled names entries name).head? = some first

theorem kind_combine_called (group : List Constraint) (name : String) :
    (combine (group.map (·.called name))).kind = group.head?.bind (·.kind) := by
  cases group <;> rfl

theorem exists_mem_grouped_iff (hlength : names.length = entries.length) :
    (∃ c ∈ grouped names entries, c.kind = none) ↔
      ∃ name first, (entriesCalled names entries name).head? = some first ∧ first.kind = none := by
  constructor
  · rintro ⟨_, hc, hkind⟩
    obtain ⟨name, hname, rfl⟩ := List.mem_map.1 hc
    have hgroup := entriesCalled_ne_nil hlength (List.mem_eraseDups.1 hname)
    obtain ⟨first, rest, hgroup⟩ := List.exists_cons_of_ne_nil hgroup
    rw [kind_combine_called, hgroup] at hkind
    exact ⟨name, first, by rw [hgroup, List.head?_cons], hkind⟩
  · rintro ⟨name, first, hfirst, hkind⟩
    obtain ⟨i, -, hname⟩ := place_of_mem_entriesCalled (List.mem_of_head? hfirst)
    refine ⟨_, List.mem_map_of_mem (List.mem_eraseDups.2 (List.mem_of_getElem? hname)), ?_⟩
    rw [kind_combine_called, hfirst, Option.bind_some, hkind]

theorem exists_merge_of_leadsWithoutKind {first : Constraint} (h : LeadsWithoutKind entries first) :
    ∃ merged, merge entries = .ok merged := by
  obtain ⟨-, names, name, hnames, -⟩ := h
  exact ⟨_, (merge_eq_ok_iff _ _).2 ⟨names, hnames, rfl⟩⟩

/-- A merged constraint has no kind exactly when the first of its entries has none. -/
theorem exists_mem_merged_iff {merged : List Constraint} (h : merge entries = .ok merged) :
    (∃ c ∈ merged, c.kind = none) ↔ ∃ first, LeadsWithoutKind entries first := by
  constructor
  · intro hkindless
    obtain ⟨names, hnames, rfl⟩ := (merge_eq_ok_iff _ _).1 h
    obtain ⟨name, first, hfirst, hkind⟩ := (exists_mem_grouped_iff hnames.1).1 hkindless
    exact ⟨first, hkind, names, name, hnames, hfirst⟩
  · rintro ⟨first, hkind, names, name, hnames, hfirst⟩
    rw [(merge_eq_ok_iff _ _).2 ⟨names, hnames, rfl⟩] at h
    rw [← Except.ok.inj h]
    exact (exists_mem_grouped_iff hnames.1).2 ⟨name, first, hfirst, hkind⟩

end SchemaScript.Constraint
