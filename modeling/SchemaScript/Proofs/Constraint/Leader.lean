import SchemaScript.Proofs.Constraint.Grouping

/-! What merging keeps of an entry. A merged constraint has the kind, the check, the referenced
table and the rules of the first entry of its name, and of the others only the columns. So no entry
is lost exactly when each agrees with the first one of its name. -/

namespace SchemaScript.Constraint

variable {entries merged : List Constraint} {names : List String} {name : String}
  {c first : Constraint}

/-! ### Entries and the constraints that stand for them -/

/-- The constraint is of the same kind as the entry and has its check and its referenced table, so
far as the entry brings them. -/
structure StandsFor (constraint entry : Constraint) : Prop where
  kind : entry.kind = constraint.kind
  check : ∀ condition, Text.given entry.check = some condition →
    constraint.check = some condition
  refTable : ∀ table, Text.given entry.refTable = some table → constraint.refTable = some table

/-- The merged constraint of the name that an entry goes by stands for the entry. -/
def LosesNone (entries merged : List Constraint) : Prop :=
  ∀ names, Called entries names → ∀ (i : Nat) entry name, entries[i]? = some entry →
    names[i]? = some name → ∀ c ∈ merged, c.name? = some name → c.StandsFor entry

/-- The first entry that goes by a name stands for the others that do. -/
def AgreeWithFirst (entries : List Constraint) : Prop :=
  ∀ names, Called entries names → ∀ (i : Nat) entry name, entries[i]? = some entry →
    names[i]? = some name → ∀ first, (entriesCalled names entries name).head? = some first →
      first.StandsFor entry

/-- The constraint of the name: its first entry, with the columns of all entries that go by it. -/
def leading (entries : List Constraint) (names : List String) (name : String)
    (first : Constraint) : Constraint :=
  { first.called name with
    columns := (entriesCalled names entries name).flatMap (·.columns)
    refColumns := (entriesCalled names entries name).flatMap (·.refColumns) }

theorem combine_entriesCalled (h : (entriesCalled names entries name).head? = some first) :
    combine ((entriesCalled names entries name).map (·.called name)) =
      leading entries names name first := by
  obtain ⟨rest, hgroup⟩ := List.head?_eq_some_iff.1 h
  rw [leading, hgroup, List.map_cons, combine, ← List.map_cons, List.flatMap_map, List.flatMap_map]
  rfl

theorem standsFor_leading_iff :
    (leading entries names name first).StandsFor c ↔ first.StandsFor c :=
  ⟨fun h => ⟨h.kind, h.check, h.refTable⟩, fun h => ⟨h.kind, h.check, h.refTable⟩⟩

/-! ### The merged constraint of a name -/

theorem name?_leading (h : Called entries names) (hname : name ∈ names) :
    (leading entries names name first).name? = some name :=
  Text.given_eq_some.2 ⟨rfl, h.isBlank hname⟩

theorem exists_head?_entriesCalled (h : Called entries names) (hname : name ∈ names) :
    ∃ first, (entriesCalled names entries name).head? = some first :=
  Option.isSome_iff_exists.1 (List.isSome_head?.2 (entriesCalled_ne_nil h.1 hname))

/-- For each name there is one merged constraint, and the first entry of the name leads it. -/
theorem mem_grouped_iff (h : Called entries names) (hname : name ∈ names)
    (hfirst : (entriesCalled names entries name).head? = some first) :
    c ∈ grouped names entries ∧ c.name? = some name ↔ c = leading entries names name first := by
  constructor
  · rintro ⟨hc, hown⟩
    obtain ⟨own, hmem, rfl⟩ := List.mem_map.1 hc
    rw [List.mem_eraseDups] at hmem
    obtain ⟨ownFirst, hownFirst⟩ := exists_head?_entriesCalled h hmem
    rw [combine_entriesCalled hownFirst] at hown ⊢
    rw [name?_leading h hmem, Option.some.injEq] at hown
    subst hown
    rw [Option.some.inj (hownFirst.symm.trans hfirst)]
  · rintro rfl
    refine ⟨?_, name?_leading h hname⟩
    rw [← combine_entriesCalled hfirst]
    exact List.mem_map_of_mem (List.mem_eraseDups.2 hname)

theorem called_unique {others : List String} (h : Called entries names)
    (hothers : Called entries others) : names = others := by
  have hnamed := (nameAll_eq_ok_iff entries _).2 ⟨names, h, rfl⟩
  rw [(nameAll_eq_ok_iff entries _).2 ⟨others, hothers, rfl⟩, Except.ok.injEq] at hnamed
  rw [← map_name_withNames h.1, ← hnamed, map_name_withNames hothers.1]

/-! ### What is lost -/

theorem losesNone_grouped_iff (h : Called entries names) :
    LosesNone entries (grouped names entries) ↔ AgreeWithFirst entries := by
  constructor
  · intro hloses others hothers i entry name hentry hplace first hfirst
    obtain rfl := called_unique h hothers
    have hname : name ∈ names := List.mem_of_getElem? hplace
    obtain ⟨hmem, hown⟩ := (mem_grouped_iff h hname hfirst).2 rfl
    exact standsFor_leading_iff.1 (hloses names h i entry name hentry hplace _ hmem hown)
  · intro hagree others hothers i entry name hentry hplace c hc hown
    obtain rfl := called_unique h hothers
    have hname : name ∈ names := List.mem_of_getElem? hplace
    obtain ⟨first, hfirst⟩ := exists_head?_entriesCalled h hname
    obtain rfl := (mem_grouped_iff h hname hfirst).1 ⟨hc, hown⟩
    exact standsFor_leading_iff.2 (hagree names h i entry name hentry hplace first hfirst)

/-- Merging loses no entry exactly when each agrees with the first one that goes by its name. That
one leads the only merged constraint of the name, which has its properties and all columns. -/
theorem merge_losesNone_iff (h : merge entries = .ok merged) :
    (LosesNone entries merged ↔ AgreeWithFirst entries) ∧
    ∃ names, Called entries names ∧ ∀ (i : Nat) entry name, entries[i]? = some entry →
      names[i]? = some name → ∃ first,
        (entriesCalled names entries name).head? = some first ∧
        (∀ c, c ∈ merged ∧ c.name? = some name ↔ c = leading entries names name first) ∧
        ∀ c ∈ merged, c.name? = some name → (c.StandsFor entry ↔ first.StandsFor entry) := by
  obtain ⟨names, hnames, rfl⟩ := (merge_eq_ok_iff _ _).1 h
  refine ⟨losesNone_grouped_iff hnames, names, hnames, fun i entry name _ hplace => ?_⟩
  have hname : name ∈ names := List.mem_of_getElem? hplace
  obtain ⟨first, hfirst⟩ := exists_head?_entriesCalled hnames hname
  refine ⟨first, hfirst, fun c => mem_grouped_iff hnames hname hfirst, fun c hc hown => ?_⟩
  obtain rfl := (mem_grouped_iff hnames hname hfirst).1 ⟨hc, hown⟩
  exact standsFor_leading_iff

/-- Two columns of one foreign key. -/
theorem merge_losesNone_orders :
    let entries := [reference (some "FK_ORDER") "CUSTOMER" "CUSTOMERS" "ID",
      reference (some "FK_ORDER") "BRANCH" "CUSTOMERS" "BRANCH"]
    let merged := [{ reference (some "FK_ORDER") "CUSTOMER" "CUSTOMERS" "ID" with
      columns := ["CUSTOMER", "BRANCH"], refColumns := ["ID", "BRANCH"] }]
    merge entries = .ok merged ∧ LosesNone entries merged := by
  intro entries merged
  have hmerge : merge entries = .ok merged := by decide +kernel
  refine ⟨hmerge, (merge_losesNone_iff hmerge).1.2 ?_⟩
  intro names hnames i entry name hentry hplace first hfirst
  obtain ⟨j, hj, -⟩ := place_of_mem_entriesCalled (List.mem_of_head? hfirst)
  have hfirst := List.mem_of_getElem? hj
  have hentry := List.mem_of_getElem? hentry
  simp only [entries, List.mem_cons, List.not_mem_nil, or_false] at hfirst hentry
  -- Whichever of the two comes first, both are references to the same table without a check.
  rcases hfirst with rfl | rfl <;> rcases hentry with rfl | rfl <;>
    exact ⟨rfl, nofun, fun _ htable => (Text.given_eq_some.1 htable).1⟩

/-- A check under the name of a unique constraint vanishes. -/
theorem merge_loses_check :
    merge [onColumn (some "C_CODE") .unique "CODE", condition (some "C_CODE") "CODE > 0"] =
      .ok [onColumn (some "C_CODE") .unique "CODE"] ∧
    ¬LosesNone [onColumn (some "C_CODE") .unique "CODE", condition (some "C_CODE") "CODE > 0"]
      [onColumn (some "C_CODE") .unique "CODE"] := by
  have hmerge : merge [onColumn (some "C_CODE") .unique "CODE",
      condition (some "C_CODE") "CODE > 0"] = .ok [onColumn (some "C_CODE") .unique "CODE"] := by
    decide +kernel
  refine ⟨hmerge, fun hloses => ?_⟩
  obtain ⟨names, hnames, -⟩ := (merge_eq_ok_iff _ _).1 hmerge
  have hplace : names[1]? = some "C_CODE" :=
    hnames.getElem?_of_name? (c := condition (some "C_CODE") "CODE > 0") rfl (by decide +kernel)
  have hstands := hloses names hnames 1 _ _ rfl hplace _ (List.mem_singleton_self _)
    (by decide +kernel)
  exact absurd hstands.kind (by decide)

end SchemaScript.Constraint
