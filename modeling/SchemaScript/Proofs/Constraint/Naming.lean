import SchemaScript.Constraint.Merge
import SchemaScript.Proofs.GeneratedName
import SchemaScript.Proofs.StatementError

/-! What the entries of a list of constraints are called. The names are described place by place,
and the naming pass gives exactly the list of names that fits the description. -/

namespace SchemaScript.Constraint

/-- What an entry is called: by its own name, or past all the names that are given in the list or
belong to the entries before it. -/
def IsName (given before : List String) (c : Constraint) (name : String) : Prop :=
  match c.name? with
  | some own => name = own
  | none => ∃ kind, c.kind = some kind ∧ name = kind.newName (given ++ before)

theorem isBlank_newName (kind : ConstraintKind) (existing : List String) :
    Text.isBlank (kind.newName existing) = false := by
  have hstem : Text.isBlank kind.stem = false := by cases kind <;> decide
  rw [ConstraintKind.newName, nextName, Text.isBlank_append, hstem, Bool.false_and]

theorem IsName.isBlank {given before : List String} {c : Constraint} {name : String}
    (h : IsName given before c name) : Text.isBlank name = false := by
  unfold IsName at h
  split at h
  next own hown =>
    subst h
    exact (Text.given_eq_some.1 hown).2
  next =>
    obtain ⟨kind, _, rfl⟩ := h
    exact isBlank_newName _ _

/-- The names that the entries go by, each at the place of its entry. -/
def Called (entries : List Constraint) (names : List String) : Prop :=
  names.length = entries.length ∧
    ∀ i c name, entries[i]? = some c → names[i]? = some name →
      IsName (entries.filterMap (·.name?)) (names.take i) c name

theorem Called.isBlank {entries : List Constraint} {names : List String} (h : Called entries names)
    {name : String} (hname : name ∈ names) : Text.isBlank name = false := by
  obtain ⟨i, hi⟩ := List.mem_iff_getElem?.1 hname
  have hlt : i < entries.length := h.1 ▸ (List.getElem?_eq_some_iff.1 hi).1
  exact (h.2 i _ name (List.getElem?_eq_getElem hlt) hi).isBlank

theorem Called.getElem?_of_name? {entries : List Constraint} {names : List String}
    (h : Called entries names) {i : Nat} {c : Constraint} {name : String}
    (hentry : entries[i]? = some c) (hname : c.name? = some name) : names[i]? = some name := by
  have hlt : i < names.length := h.1 ▸ (List.getElem?_eq_some_iff.1 hentry).1
  have hcalled := h.2 i c names[i] hentry (List.getElem?_eq_getElem hlt)
  simp only [IsName, hname] at hcalled
  rw [List.getElem?_eq_getElem hlt, hcalled]

theorem Called.mem_of_name? {entries : List Constraint} {names : List String}
    (h : Called entries names) {c : Constraint} {name : String} (hc : c ∈ entries)
    (hname : c.name? = some name) : name ∈ names := by
  obtain ⟨i, hi⟩ := List.mem_iff_getElem?.1 hc
  exact List.mem_of_getElem? (h.getElem?_of_name? hi hname)

/-- The entry under the name that it is called by. -/
def called (name : String) (c : Constraint) : Constraint :=
  { c with name := some name, generatedName := c.generatedName || c.name?.isNone }

theorem called_of_name? {c : Constraint} {name : String} (h : c.name? = some name) :
    c.called name = c := by
  have hname : c.name = some name := (Text.given_eq_some.1 h).1
  obtain ⟨_, _, _, _, _, _, _, _, _, _⟩ := c
  subst hname
  simp [called, h]

/-- The names from some place on, where the entries before it have the names `before`. -/
def CalledFrom (given before : List String) : List Constraint → List String → Prop
  | [], names => names = []
  | c :: rest, names =>
    ∃ name tail, names = name :: tail ∧ IsName given before c name ∧
      CalledFrom given (before ++ [name]) rest tail

theorem calledFrom_iff (given : List String) (rest : List Constraint) (before names : List String) :
    CalledFrom given before rest names ↔ names.length = rest.length ∧
      ∀ i c name, rest[i]? = some c → names[i]? = some name →
        IsName given (before ++ names.take i) c name := by
  induction rest generalizing before names with
  | nil => simp [CalledFrom]
  | cons c rest ih =>
    constructor
    · rintro ⟨name, tail, rfl, hname, htail⟩
      obtain ⟨hlength, hplace⟩ := (ih _ _).1 htail
      refine ⟨by simp [hlength], fun i d name' hd hname' => ?_⟩
      cases i with
      | zero =>
        obtain rfl : c = d := by simpa using hd
        obtain rfl : name = name' := by simpa using hname'
        simpa using hname
      | succ i => simpa using hplace i d name' (by simpa using hd) (by simpa using hname')
    · rintro ⟨hlength, hplace⟩
      cases names with
      | nil => simp at hlength
      | cons name tail =>
        refine ⟨name, tail, rfl, by simpa using hplace 0 c name rfl rfl, (ih _ _).2 ⟨?_, ?_⟩⟩
        · simpa using hlength
        · intro i d name' hd hname'
          simpa using hplace (i + 1) d name' (by simpa using hd) (by simpa using hname')

theorem called_iff (entries : List Constraint) (names : List String) :
    Called entries names ↔ CalledFrom (entries.filterMap (·.name?)) [] entries names := by
  rw [calledFrom_iff]
  simp [Called]

/-! ### The naming pass -/

def withNames (names : List String) (entries : List Constraint) : List Named :=
  List.zipWith (fun name c => ⟨name, c.called name⟩) names entries

/-- An entry that can have one name only goes first, under that name. -/
theorem exists_withNames_cons_iff {given before : List String} {c : Constraint} {name : String}
    (h : ∀ other, IsName given before c other ↔ other = name) (rest : List Constraint)
    (named : List Named) :
    (∃ names, CalledFrom given before (c :: rest) names ∧ named = withNames names (c :: rest)) ↔
      ∃ tail, (∃ names, CalledFrom given (before ++ [name]) rest names ∧
        tail = withNames names rest) ∧ ⟨name, c.called name⟩ :: tail = named := by
  constructor
  · rintro ⟨_, ⟨other, names, rfl, hother, hnames⟩, rfl⟩
    obtain rfl := (h other).1 hother
    exact ⟨_, ⟨names, hnames, rfl⟩, rfl⟩
  · rintro ⟨_, ⟨names, hnames, rfl⟩, rfl⟩
    exact ⟨name :: names, ⟨name, names, rfl, (h name).2 rfl, hnames⟩, rfl⟩

/-- The taken names count only through what is among them, so the pass may keep them in any order
and a given name more than once. -/
theorem nameFrom_eq_ok_iff (given : List String) (rest : List Constraint)
    (hgiven : ∀ c ∈ rest, ∀ name, c.name? = some name → name ∈ given)
    (before taken : List String) (htaken : ∀ name, name ∈ taken ↔ name ∈ given ++ before)
    (index : Nat) (named : List Named) :
    nameFrom taken index rest = .ok named ↔
      ∃ names, CalledFrom given before rest names ∧ named = withNames names rest := by
  induction rest generalizing before taken index named with
  | nil =>
    rw [nameFrom]
    simp [CalledFrom, withNames, eq_comm]
  | cons c rest ih =>
    obtain ⟨hfirst, hrest⟩ := List.forall_mem_cons.1 hgiven
    rw [nameFrom]
    cases hname : c.name? with
    | some name =>
      -- A given name is in `given` from the start, so `taken` stays as it is.
      have hnext : ∀ other, other ∈ taken ↔ other ∈ given ++ (before ++ [name]) := by
        intro other
        have := hfirst name hname
        simp only [htaken, List.mem_append, List.mem_singleton]
        grind
      have hown : ∀ other, IsName given before c other ↔ other = name := by simp [IsName, hname]
      rw [exists_withNames_cons_iff hown, called_of_name? hname]
      simp only [bind_eq_ok_iff, ih hrest _ _ hnext, Except.ok.injEq]
    | none =>
      cases hkind : c.kind with
      | none => simp [CalledFrom, IsName, hname, hkind]
      | some kind =>
        have hnew : kind.newName taken = kind.newName (given ++ before) :=
          nextName_congr _ htaken
        have hnext : ∀ other, other ∈ kind.newName taken :: taken ↔
            other ∈ given ++ (before ++ [kind.newName taken]) := by
          intro other
          simp only [List.mem_cons, htaken, List.mem_append]
          grind
        have hown : ∀ other, IsName given before c other ↔ other = kind.newName taken := by
          simp [IsName, hname, hkind, hnew]
        rw [exists_withNames_cons_iff hown]
        simp only [bind_eq_ok_iff, ih hrest _ _ hnext, called, hname, hkind, Option.isNone_none,
          Bool.or_true, Except.ok.injEq]

theorem nameAll_eq_ok_iff (entries : List Constraint) (named : List Named) :
    nameAll entries = .ok named ↔
      ∃ names, Called entries names ∧ named = withNames names entries := by
  have hgiven : ∀ c ∈ entries, ∀ name, c.name? = some name →
      name ∈ entries.filterMap (·.name?) := by
    intro c hc name hname
    exact List.mem_filterMap.2 ⟨c, hc, hname⟩
  simp only [called_iff]
  exact nameFrom_eq_ok_iff _ entries hgiven [] _ (by simp) 0 named

end SchemaScript.Constraint
