import SchemaScript.Proofs.Constraint.Naming
import Mathlib.Data.List.Induction

/-! Merging as grouping. The constraints that come out of a list of entries are the groups of the
entries with one name, in the order of their first entries, and each has the properties of its first
entry and the columns of all of them in order. -/

namespace SchemaScript.Constraint

/-! ### Groups -/

/-- The first entry, with the columns of every entry in order. -/
def combine : List Constraint → Constraint
  | [] => {}
  | first :: rest =>
    { first with
      columns := (first :: rest).flatMap (·.columns)
      refColumns := (first :: rest).flatMap (·.refColumns) }

/-- The entries that go by `name`, in order. -/
def entriesCalled (names : List String) (entries : List Constraint) (name : String) :
    List Constraint :=
  ((names.zip entries).filter (·.1 = name)).map (·.2)

/-- One constraint for each name, in the order in which the names come up. -/
def grouped (names : List String) (entries : List Constraint) : List Constraint :=
  names.eraseDups.map fun name => combine ((entriesCalled names entries name).map (·.called name))

theorem combine_singleton (c : Constraint) : combine [c] = c := by
  simp [combine]

theorem combine_concat {entries : List Constraint} (h : entries ≠ []) (c : Constraint) :
    combine (entries ++ [c]) = (combine entries).takeColumns c := by
  cases entries with
  | nil => contradiction
  | cons first rest => simp [combine, takeColumns]

/-! ### Merging one entry -/

theorem mergeOne_of_notMem {merged : List Named} {new : Named}
    (h : new.name ∉ merged.map (·.name)) : mergeOne new merged = merged ++ [new] := by
  induction merged with
  | nil => rfl
  | cons old rest ih =>
    rw [List.map_cons, List.mem_cons, not_or] at h
    rw [mergeOne, if_neg (Ne.symm h.1), ih h.2, List.cons_append]

/-- With distinct names, only the entry of the same name changes. -/
theorem mergeOne_of_mem {merged : List Named} {new : Named}
    (hnodup : (merged.map (·.name)).Nodup) (h : new.name ∈ merged.map (·.name)) :
    mergeOne new merged = merged.map fun old =>
      if old.name = new.name then ⟨old.name, old.entry.takeColumns new.entry⟩ else old := by
  induction merged with
  | nil => simp at h
  | cons old rest ih =>
    rw [List.map_cons, List.nodup_cons] at hnodup
    rw [mergeOne, List.map_cons]
    by_cases hold : old.name = new.name
    · have hrest : ∀ other ∈ rest, other.name ≠ new.name := by
        intro other hother hsame
        exact hnodup.1 (List.mem_map.2 ⟨other, hother, hsame.trans hold.symm⟩)
      have hsame : rest.map (fun old => if old.name = new.name then
          ⟨old.name, old.entry.takeColumns new.entry⟩ else old) = rest.map id :=
        List.map_congr_left fun other hother => if_neg (hrest other hother)
      rw [if_pos hold, if_pos hold, hsame, List.map_id]
    · rw [if_neg hold, if_neg hold, ih hnodup.2]
      rw [List.map_cons, List.mem_cons] at h
      exact h.resolve_left (Ne.symm hold)

/-! ### Merging all entries -/

/-- The entries of a group, as they stand in a list with names. -/
def groupOf (named : List Named) (name : String) : List Constraint :=
  (named.filter (·.name = name)).map (·.entry)

theorem groupOf_concat (named : List Named) (new : Named) (name : String) :
    groupOf (named ++ [new]) name =
      if new.name = name then groupOf named name ++ [new.entry] else groupOf named name := by
  by_cases h : new.name = name <;> simp [groupOf, h]

theorem groupOf_ne_nil {named : List Named} {name : String} (h : name ∈ named.map (·.name)) :
    groupOf named name ≠ [] := by
  obtain ⟨entry, hentry, hname⟩ := List.mem_map.1 h
  exact List.ne_nil_of_mem (List.mem_map.2 ⟨entry, List.mem_filter.2 ⟨hentry, by simpa⟩, rfl⟩)

theorem groupOf_eq_nil {named : List Named} {name : String} (h : name ∉ named.map (·.name)) :
    groupOf named name = [] := by
  rw [groupOf, List.map_eq_nil_iff, List.filter_eq_nil_iff]
  intro entry hentry hname
  exact h (List.mem_map.2 ⟨entry, hentry, by simpa using hname⟩)

theorem eraseDups_concat (names : List String) (name : String) :
    (names ++ [name]).eraseDups =
      if name ∈ names then names.eraseDups else names.eraseDups ++ [name] := by
  rw [List.eraseDups_append]
  by_cases h : name ∈ names <;> simp [List.removeAll, h, List.eraseDups_cons]

theorem nodup_eraseDups (names : List String) : names.eraseDups.Nodup := by
  induction names using List.reverseRecOn with
  | nil => simp
  | append_singleton names name ih =>
    rw [eraseDups_concat]
    split
    · exact ih
    next h =>
      rw [← List.mem_eraseDups] at h
      refine List.nodup_append.2 ⟨ih, by simp, fun other hother new hnew hsame => ?_⟩
      rw [List.mem_singleton.1 hnew] at hsame
      exact h (hsame ▸ hother)

/-- The group of each name. -/
def groups (named : List Named) : List Named :=
  (named.map (·.name)).eraseDups.map fun name => ⟨name, combine (groupOf named name)⟩

theorem map_name_groups (named : List Named) :
    (groups named).map (·.name) = (named.map (·.name)).eraseDups := by
  rw [groups, List.map_map]
  exact List.map_id _

/-- One more entry joins the group of its name, or it starts one at the end. -/
theorem mergeOne_groups (named : List Named) (new : Named) :
    mergeOne new (groups named) = groups (named ++ [new]) := by
  have hnodup : ((groups named).map (·.name)).Nodup := by
    rw [map_name_groups]
    exact nodup_eraseDups _
  have hmem : new.name ∈ (groups named).map (·.name) ↔ new.name ∈ named.map (·.name) := by
    rw [map_name_groups, List.mem_eraseDups]
  rw [groups.eq_def (named ++ [new]), List.map_append, List.map_cons, List.map_nil,
    eraseDups_concat]
  by_cases h : new.name ∈ named.map (·.name)
  · rw [if_pos h, mergeOne_of_mem hnodup (hmem.2 h), groups, List.map_map]
    refine List.map_congr_left fun name hname => ?_
    rw [Function.comp_apply, groupOf_concat]
    by_cases hsame : new.name = name
    · rw [if_pos hsame, if_pos hsame.symm, combine_concat (groupOf_ne_nil (hsame ▸ h))]
    · rw [if_neg hsame, if_neg (Ne.symm hsame)]
  · rw [if_neg h, mergeOne_of_notMem (mt hmem.1 h), groups, List.map_append, List.map_cons,
      List.map_nil, groupOf_concat, if_pos rfl, groupOf_eq_nil h, List.nil_append,
      combine_singleton]
    congr 1
    refine List.map_congr_left fun name hname => ?_
    have hother : new.name ≠ name := by
      rintro rfl
      exact h (List.mem_eraseDups.1 hname)
    rw [groupOf_concat, if_neg hother]

/-- After each entry, the merged entries are the groups so far. -/
theorem foldl_mergeOne (named : List Named) :
    named.foldl (fun merged new => mergeOne new merged) [] = groups named := by
  induction named using List.reverseRecOn with
  | nil => rfl
  | append_singleton named new ih =>
    rw [List.foldl_append, ih, List.foldl_cons, List.foldl_nil, mergeOne_groups]

/-! ### The constraints of a list of entries -/

theorem map_name_withNames {names : List String} {entries : List Constraint}
    (h : names.length = entries.length) : (withNames names entries).map (·.name) = names := by
  induction names generalizing entries with
  | nil => rfl
  | cons name names ih =>
    cases entries with
    | nil => simp at h
    | cons c entries => simpa [withNames] using ih (by simpa using h)

theorem groupOf_withNames (names : List String) (entries : List Constraint) (name : String) :
    groupOf (withNames names entries) name =
      (entriesCalled names entries name).map (·.called name) := by
  induction names generalizing entries with
  | nil => rfl
  | cons own names ih =>
    cases entries with
    | nil => rfl
    | cons c entries =>
      by_cases h : own = name
      · simpa [groupOf, withNames, entriesCalled, h] using ih entries
      · simpa [groupOf, withNames, entriesCalled, h] using ih entries

theorem merge_eq_ok_iff (entries merged : List Constraint) :
    merge entries = .ok merged ↔
      ∃ names, Called entries names ∧ merged = grouped names entries := by
  have hmerge : merge entries = .ok merged ↔
      ∃ named, nameAll entries = .ok named ∧ (groups named).map (·.entry) = merged := by
    simp only [merge, bind_eq_ok_iff, foldl_mergeOne, Except.ok.injEq]
  have hgroups : ∀ names, Called entries names →
      (groups (withNames names entries)).map (·.entry) = grouped names entries := by
    intro names hnames
    rw [groups, List.map_map, map_name_withNames hnames.1, grouped]
    refine List.map_congr_left fun name _ => ?_
    rw [Function.comp_apply, groupOf_withNames]
  rw [hmerge]
  constructor
  · rintro ⟨_, hnamed, rfl⟩
    obtain ⟨names, hnames, rfl⟩ := (nameAll_eq_ok_iff _ _).1 hnamed
    exact ⟨names, hnames, hgroups names hnames⟩
  · rintro ⟨names, hnames, rfl⟩
    exact ⟨_, (nameAll_eq_ok_iff _ _).2 ⟨names, hnames, rfl⟩, hgroups names hnames⟩

/-! ### Names and columns of the groups -/

theorem place_of_mem_entriesCalled {names : List String} {entries : List Constraint}
    {name : String} {c : Constraint} (h : c ∈ entriesCalled names entries name) :
    ∃ i : Nat, entries[i]? = some c ∧ names[i]? = some name := by
  obtain ⟨⟨own, entry⟩, hpair, rfl⟩ := List.mem_map.1 h
  rw [List.mem_filter, decide_eq_true_eq] at hpair
  obtain ⟨hzip, rfl⟩ := hpair
  obtain ⟨i, hi⟩ := List.mem_iff_getElem?.1 hzip
  rw [List.getElem?_zip_eq_some] at hi
  exact ⟨i, hi.2, hi.1⟩

theorem entriesCalled_ne_nil {names : List String} {entries : List Constraint} {name : String}
    (hlength : names.length = entries.length) (h : name ∈ names) :
    entriesCalled names entries name ≠ [] := by
  rw [← map_name_withNames hlength] at h
  have hgroup := groupOf_ne_nil h
  rwa [groupOf_withNames, ne_eq, List.map_eq_nil_iff] at hgroup

theorem name_combine_called {entries : List Constraint} (h : entries ≠ []) (name : String) :
    (combine (entries.map (·.called name))).name = some name := by
  cases entries with
  | nil => contradiction
  | cons first rest => rfl

theorem map_name?_grouped {names : List String} {entries : List Constraint}
    (h : Called entries names) :
    (grouped names entries).map (·.name?) = names.eraseDups.map some := by
  rw [grouped, List.map_map]
  refine List.map_congr_left fun name hname => ?_
  rw [List.mem_eraseDups] at hname
  rw [Function.comp_apply, name?, name_combine_called (entriesCalled_ne_nil h.1 hname),
    Text.given_eq_some]
  exact ⟨rfl, h.isBlank hname⟩

theorem filterMap_name?_grouped {names : List String} {entries : List Constraint}
    (h : Called entries names) : (grouped names entries).filterMap (·.name?) = names.eraseDups := by
  have hnames : ((grouped names entries).map (·.name?)).filterMap id =
      (names.eraseDups.map some).filterMap id := by rw [map_name?_grouped h]
  simpa [List.filterMap_map] using hnames

/-- The first entry of a group brings the kind. If no entry was given the name of the group, it was
made up for that kind. -/
theorem kind_of_mem_grouped {names : List String} {entries : List Constraint} {c : Constraint}
    {name : String} (h : Called entries names) (hc : c ∈ grouped names entries)
    (hname : c.name? = some name) (hgiven : name ∉ entries.filterMap (·.name?)) :
    ∃ kind existing, c.kind = some kind ∧ name = kind.newName existing := by
  obtain ⟨own, hown, rfl⟩ := List.mem_map.1 hc
  have hne := entriesCalled_ne_nil h.1 (List.mem_eraseDups.1 hown)
  rw [name?, name_combine_called hne, Text.given_eq_some, Option.some.injEq] at hname
  obtain ⟨rfl, -⟩ := hname
  cases hentries : entriesCalled names entries own with
  | nil => contradiction
  | cons first rest =>
    obtain ⟨i, hentry, hplace⟩ := place_of_mem_entriesCalled (hentries ▸ List.mem_cons_self)
    have hIs := h.2 i first own hentry hplace
    unfold IsName at hIs
    split at hIs
    next given hfirst =>
      subst hIs
      exact absurd (List.mem_filterMap.2 ⟨first, List.mem_of_getElem? hentry, hfirst⟩) hgiven
    next =>
      obtain ⟨kind, hkind, hnew⟩ := hIs
      exact ⟨kind, _, hkind, hnew⟩

/-- Columns stay with the columns that they refer to. -/
theorem zip_combine {entries : List Constraint}
    (h : ∀ c ∈ entries, c.refColumns.length = c.columns.length) :
    (combine entries).columns.zip (combine entries).refColumns =
      entries.flatMap fun c => c.columns.zip c.refColumns := by
  have hcolumns : (combine entries).columns = entries.flatMap (·.columns) := by
    cases entries <;> rfl
  have hrefColumns : (combine entries).refColumns = entries.flatMap (·.refColumns) := by
    cases entries <;> rfl
  rw [hcolumns, hrefColumns]
  clear hcolumns hrefColumns
  induction entries with
  | nil => rfl
  | cons first rest ih =>
    obtain ⟨hfirst, hrest⟩ := List.forall_mem_cons.1 h
    rw [List.flatMap_cons, List.flatMap_cons, List.flatMap_cons, List.zip_append hfirst.symm,
      ih hrest]

theorem map_zip_grouped {names : List String} {entries : List Constraint}
    (h : ∀ c ∈ entries, c.refColumns.length = c.columns.length) :
    (grouped names entries).map (fun c => c.columns.zip c.refColumns) =
      names.eraseDups.map fun name =>
        (entriesCalled names entries name).flatMap fun c => c.columns.zip c.refColumns := by
  rw [grouped, List.map_map]
  refine List.map_congr_left fun name _ => ?_
  have hgroup : ∀ c ∈ (entriesCalled names entries name).map (·.called name),
      c.refColumns.length = c.columns.length := by
    intro c hc
    obtain ⟨entry, hentry, rfl⟩ := List.mem_map.1 hc
    obtain ⟨i, hi, -⟩ := place_of_mem_entriesCalled hentry
    exact h entry (List.mem_of_getElem? hi)
  rw [Function.comp_apply, zip_combine hgroup, List.flatMap_map]
  rfl

/-! ### Names of merged constraints -/

section

variable {entries merged : List Constraint} {name : String}

theorem nodup_names_of_merge (h : merge entries = .ok merged) :
    (merged.filterMap (·.name?)).Nodup := by
  obtain ⟨names, hnames, rfl⟩ := (merge_eq_ok_iff _ _).1 h
  rw [filterMap_name?_grouped hnames]
  exact nodup_eraseDups names

theorem name?_ne_none_of_merge (h : merge entries = .ok merged) {c : Constraint} (hc : c ∈ merged) :
    c.name? ≠ none := by
  obtain ⟨names, hnames, rfl⟩ := (merge_eq_ok_iff _ _).1 h
  have hname : c.name? ∈ names.eraseDups.map some :=
    map_name?_grouped hnames ▸ List.mem_map_of_mem hc
  obtain ⟨name, -, hsome⟩ := List.mem_map.1 hname
  rw [← hsome]
  exact Option.some_ne_none name

theorem given_mem_names_of_merge (h : merge entries = .ok merged)
    (hname : name ∈ entries.filterMap (·.name?)) : name ∈ merged.filterMap (·.name?) := by
  obtain ⟨names, hnames, rfl⟩ := (merge_eq_ok_iff _ _).1 h
  obtain ⟨c, hc, hown⟩ := List.mem_filterMap.1 hname
  rw [filterMap_name?_grouped hnames, List.mem_eraseDups]
  exact hnames.mem_of_name? hc hown

/-- A name that was not given was made up for the kind of the constraint that has it. -/
theorem newName_of_merge (h : merge entries = .ok merged)
    (hname : name ∈ merged.filterMap (·.name?)) (hgiven : name ∉ entries.filterMap (·.name?)) :
    ∃ c ∈ merged, ∃ kind existing, c.kind = some kind ∧ name = kind.newName existing := by
  obtain ⟨names, hnames, rfl⟩ := (merge_eq_ok_iff _ _).1 h
  obtain ⟨c, hc, hown⟩ := List.mem_filterMap.1 hname
  exact ⟨c, hc, kind_of_mem_grouped hnames hc hown hgiven⟩

end

/-! ### Merging is grouping -/

/-- Merging is grouping by name: one constraint for each name that the entries are called by, in
the order of the names, with all columns of the entries of that name and otherwise as the first of
them. -/
theorem merge_eq_grouped {entries merged : List Constraint} (h : merge entries = .ok merged) :
    ∃ names, Called entries names ∧ merged = grouped names entries ∧
      names.eraseDups.Nodup ∧ merged.map (·.name?) = names.eraseDups.map some ∧
      ((∀ c ∈ entries, c.refColumns.length = c.columns.length) →
        merged.map (fun c => c.columns.zip c.refColumns) =
          names.eraseDups.map fun name =>
            (entriesCalled names entries name).flatMap fun c => c.columns.zip c.refColumns) := by
  obtain ⟨names, hnames, rfl⟩ := (merge_eq_ok_iff _ _).1 h
  exact ⟨names, hnames, rfl, nodup_eraseDups names, map_name?_grouped hnames, map_zip_grouped⟩

/-- Both entries of one foreign key, around an entry without a name. -/
theorem merge_eq_grouped_orders :
    ∃ names, Called [reference (some "FK_ORDER") "CUSTOMER" "CUSTOMERS" "ID",
        reference none "ITEM" "ITEMS" "ID",
        reference (some "FK_ORDER") "BRANCH" "CUSTOMERS" "BRANCH"] names ∧
      [some "FK_ORDER", some "FK_<TABLE_NAME>_1"] = names.eraseDups.map some ∧
      [[("CUSTOMER", "ID"), ("BRANCH", "BRANCH")], [("ITEM", "ID")]] =
        names.eraseDups.map fun name => (entriesCalled names
          [reference (some "FK_ORDER") "CUSTOMER" "CUSTOMERS" "ID",
            reference none "ITEM" "ITEMS" "ID",
            reference (some "FK_ORDER") "BRANCH" "CUSTOMERS" "BRANCH"] name).flatMap
          fun c => c.columns.zip c.refColumns := by
  have hmerge : merge [reference (some "FK_ORDER") "CUSTOMER" "CUSTOMERS" "ID",
      reference none "ITEM" "ITEMS" "ID",
      reference (some "FK_ORDER") "BRANCH" "CUSTOMERS" "BRANCH"] =
      .ok [{ reference (some "FK_ORDER") "CUSTOMER" "CUSTOMERS" "ID" with
          columns := ["CUSTOMER", "BRANCH"], refColumns := ["ID", "BRANCH"] },
        { reference (some "FK_<TABLE_NAME>_1") "ITEM" "ITEMS" "ID" with generatedName := true }] :=
    by cbv
  obtain ⟨names, hnames, -, -, hcalled, hpairs⟩ := merge_eq_grouped hmerge
  exact ⟨names, hnames, hcalled, hpairs (by decide)⟩

end SchemaScript.Constraint
