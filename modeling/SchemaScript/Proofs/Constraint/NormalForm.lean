import SchemaScript.Proofs.Constraint.Grouping

/-! Constraints that are merged already. Each of them has a name and no two have the same one; that
is what merging gives, and what it leaves as it is. -/

namespace SchemaScript.Constraint

variable {entries merged : List Constraint} {named : List Named}

/-- Every constraint has a name of its own. -/
structure HaveOwnNames (constraints : List Constraint) : Prop where
  named : ∀ c ∈ constraints, c.name? ≠ none
  distinct : (constraints.filterMap (·.name?)).Nodup

theorem haveOwnNames_of_merge (h : merge entries = .ok merged) : HaveOwnNames merged :=
  ⟨fun _ hc => name?_ne_none_of_merge h hc, nodup_names_of_merge h⟩

/-! ### Merging what is merged -/

theorem exists_named (h : ∀ c ∈ entries, c.name? ≠ none) :
    ∃ named : List Named, entries = named.map (·.entry) ∧
      ∀ n ∈ named, n.entry.name? = some n.name := by
  induction entries with
  | nil => exact ⟨[], rfl, by simp⟩
  | cons c rest ih =>
    obtain ⟨hc, hrest⟩ := List.forall_mem_cons.1 h
    obtain ⟨name, hname⟩ := Option.ne_none_iff_exists'.1 hc
    obtain ⟨named, rfl, hnamed⟩ := ih hrest
    exact ⟨⟨name, c⟩ :: named, rfl, List.forall_mem_cons.2 ⟨hname, hnamed⟩⟩

theorem nameFrom_of_named (h : ∀ n ∈ named, n.entry.name? = some n.name) (taken : List String)
    (index : Nat) : nameFrom taken index (named.map (·.entry)) = .ok named := by
  induction named generalizing index with
  | nil => rfl
  | cons n rest ih =>
    obtain ⟨hn, hrest⟩ := List.forall_mem_cons.1 h
    rw [List.map_cons, nameFrom, hn]
    simp only [bind_eq_ok_iff, ih hrest (index + 1), Except.ok.injEq, exists_eq_left']

/-- With distinct names, every entry is a group of its own. -/
theorem groups_of_nodup (h : (named.map (·.name)).Nodup) : groups named = named := by
  induction named using List.reverseRecOn with
  | nil => rfl
  | append_singleton named new ih =>
    rw [List.map_append, List.map_singleton, List.nodup_append] at h
    obtain ⟨hnamed, -, hdisjoint⟩ := h
    have hnew : new.name ∉ named.map (·.name) := by
      intro hmem
      exact hdisjoint _ hmem _ (List.mem_singleton_self _) rfl
    rw [← mergeOne_groups, ih hnamed, mergeOne_of_notMem hnew]

theorem merge_of_haveOwnNames (h : HaveOwnNames entries) : merge entries = .ok entries := by
  obtain ⟨named, rfl, hnamed⟩ := exists_named h.named
  have hnames : (named.map (·.entry)).filterMap (·.name?) = named.map (·.name) := by
    rw [List.filterMap_map, ← List.filterMap_eq_map]
    exact List.filterMap_congr fun n hn => hnamed n hn
  have hgroups : groups named = named := groups_of_nodup (hnames ▸ h.distinct)
  rw [merge, nameAll, nameFrom_of_named hnamed]
  show Except.ok _ = Except.ok _
  rw [foldl_mergeOne, hgroups]

theorem merge_eq_self_iff : merge entries = .ok entries ↔ HaveOwnNames entries :=
  ⟨haveOwnNames_of_merge, merge_of_haveOwnNames⟩

theorem merge_merged (h : merge entries = .ok merged) : merge merged = .ok merged :=
  merge_of_haveOwnNames (haveOwnNames_of_merge h)

end SchemaScript.Constraint
