import SchemaScript.Proofs.Constraint.Faults

/-! Which entry a merged constraint begins with. The constraints are in the order of their first
entries, so the number of a constraint is the place of its first entry less the entries before that
which repeat a name. -/

namespace SchemaScript.Constraint

variable {entries : List Constraint} {names : List String} {name : String} {place : Nat}

/-! ### New names -/

/-- The name at `place` comes up there for the first time. -/
def IsNew (names : List String) (place : Nat) : Prop :=
  ∃ name, names[place]? = some name ∧ name ∉ names.take place

/-- How many different names there are before `place`. -/
def distinctBefore (names : List String) (place : Nat) : Nat := (names.take place).eraseDups.length

theorem length_eraseDups_concat (name : String) :
    (names ++ [name]).eraseDups.length =
      names.eraseDups.length + if name ∈ names then 0 else 1 := by
  rw [eraseDups_concat]
  split <;> simp

theorem length_eraseDups_le (names : List String) : names.eraseDups.length ≤ names.length := by
  induction names using List.reverseRecOn with
  | nil => simp
  | append_singleton names name ih =>
    rw [length_eraseDups_concat, List.length_append, List.length_singleton]
    split <;> omega

theorem length_eraseDups_eq_iff (names : List String) :
    names.eraseDups.length = names.length ↔ names.Nodup := by
  induction names using List.reverseRecOn with
  | nil => simp
  | append_singleton names name ih =>
    have hle := length_eraseDups_le names
    have hnodup : (names ++ [name]).Nodup ↔ name ∉ names ∧ names.Nodup := by
      rw [← List.nodup_cons, ← List.singleton_append]
      exact List.perm_append_comm.nodup_iff
    rw [length_eraseDups_concat, List.length_append, List.length_singleton, hnodup, ← ih]
    split
    next hmem => exact iff_of_false (by omega) fun h => h.1 hmem
    next hmem => simp [hmem]

theorem distinctBefore_le (names : List String) (place : Nat) :
    distinctBefore names place ≤ place :=
  Nat.le_trans (length_eraseDups_le _) (List.length_take_le _ _)

/-- Nothing is merged before `place` exactly when the names so far are all different. -/
theorem distinctBefore_eq_iff (h : place ≤ names.length) :
    distinctBefore names place = place ↔ (names.take place).Nodup := by
  rw [← length_eraseDups_eq_iff, List.length_take_of_le h, distinctBefore]

/-- A new name gets the next number. -/
theorem getElem?_eraseDups (hname : names[place]? = some name) (hnew : name ∉ names.take place) :
    names.eraseDups[distinctBefore names place]? = some name := by
  obtain ⟨hlt, rfl⟩ := List.getElem?_eq_some_iff.1 hname
  have hkeep : (names.drop place).removeAll (names.take place) =
      names[place] :: (names.drop (place + 1)).removeAll (names.take place) := by
    rw [List.drop_eq_getElem_cons hlt, List.cons_removeAll, if_pos (by simpa using hnew)]
  have hsplit : names.eraseDups =
      (names.take place).eraseDups ++
        ((names.drop place).removeAll (names.take place)).eraseDups := by
    rw [← List.eraseDups_append, List.take_append_drop]
  rw [hsplit, hkeep, List.eraseDups_cons, distinctBefore,
    List.getElem?_append_right (Nat.le_refl _), Nat.sub_self, List.getElem?_cons_zero]

/-- Every number is that of a new name. -/
theorem exists_isNew_of_getElem?_eraseDups {number : Nat}
    (h : names.eraseDups[number]? = some name) :
    ∃ place, names[place]? = some name ∧ name ∉ names.take place ∧
      number = distinctBefore names place := by
  obtain ⟨front, back, hnames, hfront⟩ :=
    List.eq_append_cons_of_mem (List.mem_eraseDups.1 (List.mem_of_getElem? h))
  have hplace : names[front.length]? = some name := by simp [hnames]
  have hnew : name ∉ names.take front.length := by simpa [hnames] using hfront
  refine ⟨front.length, hplace, hnew, ?_⟩
  have hnumber := getElem?_eraseDups hplace hnew
  exact (List.getElem?_inj (List.getElem?_eq_some_iff.1 h).1 (nodup_eraseDups names)).1
    (h.trans hnumber.symm)

theorem distinctBefore_lt {earlier : Nat} (h : IsNew names earlier) (hlt : earlier < place) :
    distinctBefore names earlier < distinctBefore names place := by
  obtain ⟨name, hname, hnew⟩ := h
  have hmin : min earlier place = earlier := Nat.min_eq_left (Nat.le_of_lt hlt)
  have hnumber : (names.take place).eraseDups[distinctBefore (names.take place) earlier]? =
      some name := by
    refine getElem?_eraseDups ?_ ?_
    · rw [List.getElem?_take_of_lt hlt, hname]
    · rwa [List.take_take, hmin]
  rw [distinctBefore, List.take_take, hmin] at hnumber
  exact (List.getElem?_eq_some_iff.1 hnumber).1

/-! ### Constraints and their first entries -/

/-- There is a constraint at `place`, and it has no kind. -/
def KindlessAt (constraints : List Constraint) (place : Nat) : Prop :=
  ∃ c, constraints[place]? = some c ∧ c.kind = none

theorem kindlessAt_iff {constraints : List Constraint} :
    KindlessAt constraints place ↔ constraints[place]?.map (·.kind) = some none := by
  simp [KindlessAt]

theorem head?_entriesCalled (hlength : names.length = entries.length)
    (hname : names[place]? = some name) (hnew : name ∉ names.take place) :
    (entriesCalled names entries name).head? = entries[place]? := by
  have hlt := (List.getElem?_eq_some_iff.1 hname).1
  induction names generalizing entries place with
  | nil => simp at hname
  | cons own names ih =>
    obtain ⟨c, entries, rfl⟩ := List.exists_cons_of_length_eq_add_one hlength.symm
    cases place with
    | zero =>
      obtain rfl : own = name := by simpa using hname
      simp [entriesCalled]
    | succ place =>
      rw [List.take_succ_cons, List.mem_cons, not_or] at hnew
      have hrest := ih (by simpa using hlength) (by simpa using hname) hnew.2 (by simpa using hlt)
      rw [List.getElem?_cons_succ, ← hrest]
      simp [entriesCalled, Ne.symm hnew.1]

/-- A merged constraint has no kind exactly when its first entry has none. -/
theorem kindlessAt_grouped_iff (hlength : names.length = entries.length)
    (h : IsNew names place) :
    KindlessAt (grouped names entries) (distinctBefore names place) ↔ KindlessAt entries place := by
  obtain ⟨name, hname, hnew⟩ := h
  have hlt : place < entries.length := hlength ▸ (List.getElem?_eq_some_iff.1 hname).1
  have hfirst := head?_entriesCalled hlength hname hnew
  rw [kindlessAt_iff, kindlessAt_iff, grouped, List.getElem?_map, getElem?_eraseDups hname hnew,
    Option.map_some, Option.map_some, kind_combine_called, hfirst, List.getElem?_eq_getElem hlt,
    Option.bind_some, Option.map_some]

/-- The first new name without a kind is at `place`. -/
structure IsCulprit (entries : List Constraint) (names : List String) (place : Nat) : Prop where
  kindless : KindlessAt entries place
  isNew : IsNew names place
  earlier : ∀ i < place, IsNew names i → ¬KindlessAt entries i

theorem kindlessAt_of_isFirst {constraints before : List Constraint} {c : Constraint}
    (h : IsFirst (·.kind = none) constraints before c) :
    KindlessAt constraints before.length ∧ ∀ i < before.length, ¬KindlessAt constraints i := by
  obtain ⟨after, rfl, hbefore, hc⟩ := h
  refine ⟨⟨c, by simp, hc⟩, ?_⟩
  rintro i hi ⟨other, hother, hkind⟩
  rw [List.getElem?_append_left hi] at hother
  exact hbefore other (List.mem_of_getElem? hother) hkind

theorem exists_isCulprit (hlength : names.length = entries.length) {before : List Constraint}
    {c : Constraint} (h : IsFirst (·.kind = none) (grouped names entries) before c) :
    ∃ place, IsCulprit entries names place ∧ before.length = distinctBefore names place := by
  obtain ⟨hkindless, hearlier⟩ := kindlessAt_of_isFirst h
  have hnumber : before.length < names.eraseDups.length := by
    obtain ⟨other, hother, -⟩ := hkindless
    simpa [grouped] using (List.getElem?_eq_some_iff.1 hother).1
  obtain ⟨place, hname, hnew, hplace⟩ :=
    exists_isNew_of_getElem?_eraseDups (List.getElem?_eq_getElem hnumber)
  have hIsNew : IsNew names place := ⟨_, hname, hnew⟩
  rw [hplace] at hkindless hearlier
  refine ⟨place, ⟨(kindlessAt_grouped_iff hlength hIsNew).1 hkindless, hIsNew, ?_⟩, hplace⟩
  intro i hi hIsNew
  exact mt (kindlessAt_grouped_iff hlength hIsNew).2 (hearlier _ (distinctBefore_lt hIsNew hi))

end SchemaScript.Constraint
