import SchemaScript.Column.ParameterList
import SchemaScript.Proofs.Column.Conflict
import SchemaScript.Proofs.Dialect.Identifier
import SchemaScript.Proofs.Text.Blank

/-! Lists of parameters and blocks of variables as lists. Only the named rows count, each by itself:
a list fails as the first of them that cannot be written, and lists that are put together are
written one after the other. -/

namespace SchemaScript.Column

variable {d : Dialect} {c : Column} {reason : StatementError}
  {rows others first second : List Column}

/-! ### Rows that cannot be written -/

/-- A cursor without a query, or any other row that is overdetermined. -/
def IsUnwritable (c : Column) : Prop :=
  (∃ cursor, c.cursor = some cursor ∧ Text.isBlank cursor.select = true) ∨
    c.cursor = none ∧ c.IsOverdetermined

/-- What is said of a row that cannot be written. -/
inductive RowFault (c : Column) : StatementError → Prop
  | query {cursor : Cursor} (isCursor : c.cursor = some cursor)
      (blank : Text.isBlank cursor.select = true) : RowFault c (.cursorWithoutSelect c.label)
  | definition {reason : StatementError} (plain : c.cursor = none) (conflict : c.Conflict reason) :
      RowFault c reason

theorem isUnwritable_iff : c.IsUnwritable ↔ ∃ reason, c.RowFault reason := by
  constructor
  · rintro (⟨cursor, hcursor, hblank⟩ | ⟨hcursor, hover⟩)
    · exact ⟨_, .query hcursor hblank⟩
    · obtain ⟨reason, hconflict⟩ := isOverdetermined_iff.1 hover
      exact ⟨reason, .definition hcursor hconflict⟩
  · rintro ⟨_, hfault⟩
    cases hfault with
    | query hcursor hblank => exact .inl ⟨_, hcursor, hblank⟩
    | definition hcursor hconflict => exact .inr ⟨hcursor, isOverdetermined_iff.2 ⟨_, hconflict⟩⟩

theorem rowFault?_eq_some_iff : c.rowFault? = some reason ↔ c.RowFault reason := by
  unfold rowFault?
  constructor
  · intro h
    split at h
    next cursor hcursor =>
      split at h
      next hblank => exact Option.some.inj h ▸ .query hcursor hblank
      next => contradiction
    next hcursor => exact .definition hcursor (conflict?_eq_some_iff.1 h)
  · intro h
    cases h with
    | query hcursor hblank => simp [hcursor, hblank]
    | definition hcursor hconflict =>
      rw [hcursor]
      exact conflict?_eq_some_iff.2 hconflict

theorem rowFault?_eq_none_iff : c.rowFault? = none ↔ ¬c.IsUnwritable := by
  rw [isUnwritable_iff, not_exists, Option.eq_none_iff_forall_ne_some]
  exact forall_congr' fun reason => not_congr rowFault?_eq_some_iff

/-- A row that counts, but cannot be written. -/
def IsBadRow (c : Column) : Prop := c.hasName = true ∧ c.IsUnwritable

/-- The first row that counts but cannot be written has this fault. -/
def FirstFault (rows : List Column) (reason : StatementError) : Prop :=
  ∃ before c, IsFirst IsBadRow rows before c ∧ c.RowFault reason

theorem findSome?_rowFault?_eq_some_iff :
    (rows.filter (·.hasName)).findSome? rowFault? = some reason ↔ FirstFault rows reason := by
  unfold FirstFault
  induction rows with
  | nil => simp [not_isFirst_nil]
  | cons c rest ih =>
    rw [exists_isFirst_cons_iff]
    cases hname : c.hasName with
    | false =>
      have hsound : ¬c.IsBadRow := by simp [IsBadRow, hname]
      simp [hname, hsound, ih]
    | true =>
      rw [List.filter_cons_of_pos hname, List.findSome?_cons]
      cases hfault : c.rowFault? with
      | none =>
        have hsound : ¬c.IsBadRow := fun hbad => rowFault?_eq_none_iff.1 hfault hbad.2
        simp [hsound, ih]
      | some own =>
        have hown : c.RowFault own := rowFault?_eq_some_iff.1 hfault
        have hbad : c.IsBadRow := ⟨hname, isUnwritable_iff.2 ⟨own, hown⟩⟩
        simp only [hbad, ← rowFault?_eq_some_iff, hfault, not_true_eq_false, false_and, or_false,
          true_and]

theorem exists_firstFault_iff : (∃ reason, FirstFault rows reason) ↔ ∃ c ∈ rows, c.IsBadRow := by
  rw [← exists_isFirst_iff]
  constructor
  · rintro ⟨reason, before, c, hfirst, -⟩
    exact ⟨before, c, hfirst⟩
  · rintro ⟨before, c, hfirst⟩
    obtain ⟨reason, hfault⟩ := isUnwritable_iff.1 hfirst.holds.2
    exact ⟨reason, before, c, hfirst, hfault⟩

theorem firstFault_append_iff :
    FirstFault (first ++ second) reason ↔
      FirstFault first reason ∨ (∀ c ∈ first, ¬c.IsBadRow) ∧ FirstFault second reason :=
  exists_isFirst_append_iff

theorem findSome?_rowFault?_eq_none_iff :
    (rows.filter (·.hasName)).findSome? rowFault? = none ↔ ∀ c ∈ rows, ¬c.IsBadRow := by
  simp only [List.findSome?_eq_none_iff, List.mem_filter, rowFault?_eq_none_iff, IsBadRow, and_imp,
    not_and]

/-! ### Lists of rows -/

section

variable {write : List Column → String} {text : String}

theorem writeRows_eq_error_iff :
    writeRows write rows = .error reason ↔ FirstFault rows reason := by
  rw [← findSome?_rowFault?_eq_some_iff, writeRows]
  cases (rows.filter (·.hasName)).findSome? rowFault? <;> simp

theorem writeRows_eq_ok_iff :
    writeRows write rows = .ok text ↔
      (∀ c ∈ rows, ¬c.IsBadRow) ∧ text = write (rows.filter (·.hasName)) := by
  rw [← findSome?_rowFault?_eq_none_iff, writeRows]
  cases (rows.filter (·.hasName)).findSome? rowFault? <;> simp [eq_comm]

theorem exists_writeRows_iff :
    (∃ text, writeRows write rows = .ok text) ↔ ∀ c ∈ rows, ¬c.IsBadRow := by
  simp only [writeRows_eq_ok_iff, exists_and_left, exists_eq, and_true]

/-- Of the rows, only the named ones are read. -/
theorem writeRows_congr (h : rows.filter (·.hasName) = others.filter (·.hasName)) :
    writeRows write rows = writeRows write others := by
  rw [writeRows, writeRows, h]

end

theorem named_ne_nil_iff : rows.filter (·.hasName) ≠ [] ↔ ∃ c ∈ rows, c.hasName = true := by
  simp [List.filter_eq_nil_iff]

theorem parameterList_of_named {text : String} (h : ∃ c ∈ rows, c.hasName = true) :
    parameterList d rows = .ok text ↔ (∀ c ∈ rows, ¬c.IsBadRow) ∧
      text = Text.separatedBy ",\n" ((rows.filter (·.hasName)).map (parameterRow d)) ++ "\n" := by
  rw [parameterList, writeRows_eq_ok_iff, if_neg]
  rw [List.isEmpty_iff]
  exact named_ne_nil_iff.2 h

theorem parameterList_of_unnamed (h : ∀ c ∈ rows, c.hasName = false) :
    parameterList d rows = .ok "" := by
  have hnamed : rows.filter (·.hasName) = [] := List.filter_eq_nil_iff.2 (by simpa using h)
  rw [parameterList, writeRows, hnamed]
  rfl

/-- A row has its name in it. -/
theorem isBlank_parameterRow (h : c.hasName = true) :
    Text.isBlank (c.parameterRow d) = false := by
  have hname : Text.isBlank (d.identifier c.label) = false := by
    obtain ⟨name, hgiven⟩ := Option.isSome_iff_exists.1 h
    obtain ⟨hc, hblank⟩ := Text.given_eq_some.1 hgiven
    obtain ⟨char, hchar, hvisible⟩ := List.all_eq_false.1 hblank
    refine List.all_eq_false.2 ⟨char, Dialect.mem_identifier ?_, hvisible⟩
    rwa [label, hc, Option.getD_some]
  unfold parameterRow
  split
  · simp [cursorText, hname]
  · unfold parameterText
    split <;> simp [Text.isBlank_trimEnd, hname]

/-- A list of parameters is blank exactly when it has no named row. -/
theorem isBlank_parameterList {text : String} (h : parameterList d rows = .ok text) :
    Text.isBlank text = !rows.any (·.hasName) := by
  cases hnamed : rows.any (·.hasName) with
  | false =>
    rw [List.any_eq_false] at hnamed
    have hempty := parameterList_of_unnamed (d := d) (by simpa using hnamed)
    rw [← Except.ok.inj (hempty.symm.trans h)]
    rfl
  | true =>
    obtain ⟨-, rfl⟩ := (parameterList_of_named (List.any_eq_true.1 hnamed)).1 h
    obtain ⟨c, rest, hrows⟩ :=
      List.exists_cons_of_ne_nil (named_ne_nil_iff.2 (List.any_eq_true.1 hnamed))
    have hname : c.hasName = true := (List.mem_filter.1 (hrows ▸ List.mem_cons_self)).2
    rw [hrows, List.map_cons, Text.separatedBy_cons]
    simp [isBlank_parameterRow hname]

/-- Where the second list begins, the first one goes on behind a comma. -/
theorem parameterList_append {a b : String} (hfirst : ∃ c ∈ first, c.hasName = true)
    (hsecond : ∃ c ∈ second, c.hasName = true) (ha : parameterList d first = .ok a)
    (hb : parameterList d second = .ok b) :
    ∃ front, a = front ++ "\n" ∧ parameterList d (first ++ second) = .ok (front ++ ",\n" ++ b) := by
  obtain ⟨hsoundFirst, rfl⟩ := (parameterList_of_named hfirst).1 ha
  obtain ⟨hsoundSecond, rfl⟩ := (parameterList_of_named hsecond).1 hb
  have hnamed : ∃ c ∈ first ++ second, c.hasName = true := by
    obtain ⟨c, hc, hname⟩ := hfirst
    exact ⟨c, List.mem_append_left _ hc, hname⟩
  refine ⟨_, rfl, (parameterList_of_named hnamed).2 ⟨?_, ?_⟩⟩
  · exact List.forall_mem_append.2 ⟨hsoundFirst, hsoundSecond⟩
  · rw [List.filter_append, List.map_append, Text.separatedBy_append]
    · simp only [String.append_assoc]
    · simpa using named_ne_nil_iff.2 hfirst
    · simpa using named_ne_nil_iff.2 hsecond

theorem variableBlock_append :
    variableBlock d (first ++ second) = (do
      let a ← variableBlock d first
      let b ← variableBlock d second
      .ok (a ++ b)) := by
  simp only [variableBlock, writeRows, List.filter_append, List.findSome?_append, List.map_append,
    Text.concat_append]
  cases (first.filter (·.hasName)).findSome? rowFault? with
  | some error => rfl
  | none => cases (second.filter (·.hasName)).findSome? rowFault? <;> rfl

/-- Rows without a name leave no trace, whatever else they hold. A list of parameters without other
rows is empty; otherwise it is the named rows, each written by itself, with a comma and a new line
between neighbours and a new line at the end, so that a list goes on behind a comma where another
one ended. Blocks of variables stand one behind the other. A list of either kind fails as its first
named row that cannot be written. -/
theorem lists_ofNamedRows (d : Dialect) :
    (∀ rows others : List Column, rows.filter (·.hasName) = others.filter (·.hasName) →
      parameterList d rows = parameterList d others ∧
        variableBlock d rows = variableBlock d others) ∧
    (∀ rows text, parameterList d rows = .ok text →
      ((∀ c ∈ rows, c.hasName = false) → text = "") ∧
      ((∃ c ∈ rows, c.hasName = true) → text =
        Text.separatedBy ",\n" ((rows.filter (·.hasName)).map (parameterRow d)) ++ "\n")) ∧
    (∀ first second a b, (∃ c ∈ first, c.hasName = true) → (∃ c ∈ second, c.hasName = true) →
      parameterList d first = .ok a → parameterList d second = .ok b →
      ∃ front, a = front ++ "\n" ∧
        parameterList d (first ++ second) = .ok (front ++ ",\n" ++ b)) ∧
    (∀ first second, variableBlock d (first ++ second) = do
      let a ← variableBlock d first
      let b ← variableBlock d second
      .ok (a ++ b)) ∧
    ∀ rows reason,
      (parameterList d rows = .error reason ↔ FirstFault rows reason) ∧
      (variableBlock d rows = .error reason ↔ FirstFault rows reason) := by
  refine ⟨fun rows others h => ⟨writeRows_congr h, writeRows_congr h⟩,
    fun rows text htext => ⟨?_, ?_⟩, fun first second a b => parameterList_append,
    fun first second => variableBlock_append,
    fun rows reason => ⟨writeRows_eq_error_iff, writeRows_eq_error_iff⟩⟩
  · intro hunnamed
    exact Except.ok.inj (htext.symm.trans (parameterList_of_unnamed hunnamed))
  · intro hnamed
    exact ((parameterList_of_named hnamed).1 htext).2

/-- Rows with and without a name, as parameters and as variables. A cursor without a query is a
fault only under a name. -/
theorem lists_ofNamedRows_reading :
    let shop := ofType "SHOP" "INTEGER"
    let day : Column :=
      { ofType "DAY_NO" "DATE" with description := some "counted", notNull := true }
    let unnamed : Column := { cursor := some {} }
    let faulty : Column := { name := some "C1", cursor := some {} }
    parameterList {} [shop, unnamed, day, unnamed] = parameterList {} [shop, day] ∧
      parameterList {} [shop] = .ok "\tSHOP INTEGER\n" ∧
      parameterList {} [unnamed, day] = .ok "\tDAY_NO DATE NOT NULL\n" ∧
      (∃ front, "\tSHOP INTEGER\n" = front ++ "\n" ∧ parameterList {} ([shop] ++ [unnamed, day]) =
        .ok (front ++ ",\n" ++ "\tDAY_NO DATE NOT NULL\n")) ∧
      variableBlock {} [shop] = .ok "DECLARE SHOP INTEGER;\n" ∧
      variableBlock {} ([shop] ++ [unnamed, day]) =
        .ok ("DECLARE SHOP INTEGER;\n" ++ "DECLARE DAY_NO DATE NOT NULL; /*counted*/\n") ∧
      variableBlock {} [unnamed, day, faulty] = .error (.cursorWithoutSelect "C1") ∧
      FirstFault [unnamed, day, faulty] (.cursorWithoutSelect "C1") := by
  intro shop day unnamed faulty
  obtain ⟨hunnamed, -, happend, hblocks, hfault⟩ := lists_ofNamedRows {}
  have hshop : parameterList {} [shop] = .ok "\tSHOP INTEGER\n" := by decide +kernel
  have hday : parameterList {} [unnamed, day] = .ok "\tDAY_NO DATE NOT NULL\n" := by decide +kernel
  have hshopBlock : variableBlock {} [shop] = .ok "DECLARE SHOP INTEGER;\n" := by decide +kernel
  have hdayBlock : variableBlock {} [unnamed, day] =
      .ok "DECLARE DAY_NO DATE NOT NULL; /*counted*/\n" := by decide +kernel
  have hfaulty : variableBlock {} [unnamed, day, faulty] = .error (.cursorWithoutSelect "C1") := by
    decide +kernel
  refine ⟨(hunnamed _ _ (by decide +kernel)).1, hshop, hday, ?_, hshopBlock, ?_, hfaulty,
    (hfault _ _).2.1 hfaulty⟩
  · exact happend _ _ _ _ ⟨shop, by simp, by decide⟩ ⟨day, by simp, by decide⟩ hshop hday
  · rw [hblocks, hshopBlock, hdayBlock]
    rfl

end SchemaScript.Column
