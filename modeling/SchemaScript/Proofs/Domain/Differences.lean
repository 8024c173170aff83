import SchemaScript.Domain
import SchemaScript.Proofs.AlterStatement
import Mathlib.Data.List.Forall2

/-! What altering a domain writes: a clause for each property that differs, in a fixed order, and a
comment for another description. Where nothing differs a fixed text says so, and only there. Hence
edits that change nothing can be taken back, and one after another they still change nothing. -/

namespace SchemaScript.Domain

variable {d : Dialect} {before after : Column}

/-- The properties that a clause can set, in the order of the clauses. -/
inductive Property where
  | name
  | default
  | required
  | check
  | type
  deriving DecidableEq

namespace Property

def all : List Property := [name, default, required, check, type]

/-- Names are compared as they are; blank defaults and checks count as absent. -/
def Differs (before after : Column) : Property → Prop
  | name => before.name ≠ after.name
  | default => before.default.text? ≠ after.default.text?
  | required => before.notNull ≠ after.notNull
  | check => before.check? ≠ after.check?
  | type => before.typeSignature ≠ after.typeSignature

instance (before after : Column) : DecidablePred (Differs before after)
  | name => inferInstanceAs (Decidable (before.name ≠ after.name))
  | default => inferInstanceAs (Decidable (before.default.text? ≠ after.default.text?))
  | required => inferInstanceAs (Decidable (before.notNull ≠ after.notNull))
  | check => inferInstanceAs (Decidable (before.check? ≠ after.check?))
  | type => inferInstanceAs (Decidable (before.typeSignature ≠ after.typeSignature))

/-- The clauses that give a property its new value. A default or a check that is there no more is
dropped; so is an old check, before the new one is added. -/
inductive IsSetBy (d : Dialect) (after : Column) : Property → String → Prop
  | name : IsSetBy d after name ("TO " ++ d.identifier after.label)
  | setDefault {value : String} (h : after.default.text? = some value) :
      IsSetBy d after default ("SET DEFAULT " ++ valueText value after.typeCode)
  | dropDefault (h : after.default.text? = none) : IsSetBy d after default "DROP DEFAULT"
  | setRequired (h : after.notNull = true) : IsSetBy d after required "SET NOT NULL"
  | dropRequired (h : after.notNull = false) : IsSetBy d after required "DROP NOT NULL"
  | replaceCheck {condition : String} (h : after.check? = some condition) :
      IsSetBy d after check ("DROP CONSTRAINT\nADD CHECK (" ++ condition ++ ")")
  | dropCheck (h : after.check? = none) : IsSetBy d after check "DROP CONSTRAINT"
  | type : IsSetBy d after type ("TYPE " ++ after.typeText d)

/-- Whether an edit has touched the property. -/
def isFlagged (changes : ChangeFlags) : Property → Bool
  | name => changes.name
  | default => changes.default
  | required => changes.required
  | check => changes.check
  | type => changes.type

/-- The clause that is written for the property. -/
def clause (d : Dialect) (after : Column) : Property → String
  | name => renameClause d after
  | default => defaultClause after
  | required => requiredClause after
  | check => checkClause after
  | type => typeClause d after

theorem isSetBy_clause (d : Dialect) (after : Column) (p : Property) :
    p.IsSetBy d after (p.clause d after) := by
  cases p with
  | name => exact .name
  | default =>
    simp only [clause, defaultClause]
    split
    next value hvalue => exact .setDefault hvalue
    next hnone => exact .dropDefault hnone
  | required =>
    simp only [clause, requiredClause]
    cases hrequired : after.notNull with
    | true => exact .setRequired hrequired
    | false => exact .dropRequired hrequired
  | check =>
    simp only [clause, checkClause]
    split
    next condition hcondition => exact .replaceCheck hcondition
    next hnone => exact .dropCheck hnone
  | type => exact .type

end Property

def differing (before after : Column) : List Property :=
  Property.all.filter (Property.Differs before after)

/-- The two versions agree in all that is compared. -/
structure Unchanged (before after : Column) : Prop where
  name : before.name = after.name
  default : before.default.text? = after.default.text?
  required : before.notNull = after.notNull
  check : before.check? = after.check?
  type : before.typeSignature = after.typeSignature
  description : before.description? = after.description?

namespace Unchanged

theorem symm (h : Unchanged before after) : Unchanged after before :=
  ⟨h.name.symm, h.default.symm, h.required.symm, h.check.symm, h.type.symm, h.description.symm⟩

theorem trans {last : Column} (h : Unchanged before after) (h' : Unchanged after last) :
    Unchanged before last :=
  ⟨h.name.trans h'.name, h.default.trans h'.default, h.required.trans h'.required,
    h.check.trans h'.check, h.type.trans h'.type, h.description.trans h'.description⟩

end Unchanged

theorem differing_eq_nil_iff :
    differing before after = [] ↔ ∀ p, ¬Property.Differs before after p := by
  have hall : ∀ p, p ∈ Property.all := by
    intro p
    cases p <;> decide
  simp [differing, List.filter_eq_nil_iff, hall]

theorem unchanged_iff :
    Unchanged before after ↔
      differing before after = [] ∧ before.description? = after.description? := by
  rw [differing_eq_nil_iff]
  constructor
  · intro h
    refine ⟨fun p => ?_, h.description⟩
    cases p with
    | name => exact not_not_intro h.name
    | default => exact not_not_intro h.default
    | required => exact not_not_intro h.required
    | check => exact not_not_intro h.check
    | type => exact not_not_intro h.type
  · rintro ⟨hsame, hdescription⟩
    exact ⟨Decidable.not_not.1 (hsame .name), Decidable.not_not.1 (hsame .default),
      Decidable.not_not.1 (hsame .required), Decidable.not_not.1 (hsame .check),
      Decidable.not_not.1 (hsame .type), hdescription⟩

/-! ### The statement -/

theorem hasName_congr (h : before.name = after.name) : before.hasName = after.hasName := by
  rw [Column.hasName, Column.hasName, h]

theorem alterStatement_eq (d : Dialect) (oldName : String) (after : Column)
    (changes : ChangeFlags) :
    alterStatement d oldName after changes =
      ⟨"ALTER DOMAIN " ++ d.identifier oldName, "\n", (clauses d after changes).filterMap id,
        (if changes.description then some (commentTrailer d oldName after) else none).toList⟩ := by
  simp only [alterStatement, AlterStatement.foldl_addClause]
  rfl

theorem alter_eq_ok (hbefore : before.hasName = true) (hafter : after.hasName = true) :
    alter d before after =
      .ok (alterStatement d before.label after (ChangeFlags.between before after)).text := by
  simp [alter, alterFlagged, hbefore, hafter]

/-- Of the new version a script holds what can be set, and the type only where it is to be set. -/
theorem alterFlagged_congr {first second : Column} {changes : ChangeFlags} (oldName : String)
    (hname : first.name = second.name) (hdefault : first.default = second.default)
    (hcode : first.typeCode = second.typeCode) (hrequired : first.notNull = second.notNull)
    (hcheck : first.check? = second.check?)
    (hdescription : first.description? = second.description?)
    (htype : changes.type = true → first.typeText d = second.typeText d) :
    alterFlagged d oldName first changes = alterFlagged d oldName second changes := by
  have hlabel : first.label = second.label := by rw [Column.label, Column.label, hname]
  have hclause : (if changes.type then some (typeClause d first) else none) =
      if changes.type then some (typeClause d second) else none := by
    cases hset : changes.type with
    | false => rw [if_neg (by decide), if_neg (by decide)]
    | true => rw [typeClause, typeClause, htype hset]
  simp only [alterFlagged, alterStatement, clauses, renameClause, defaultClause, requiredClause,
    checkClause, commentTrailer, hasName_congr hname, hlabel, hdefault, hcode, hrequired, hcheck,
    hdescription, hclause]

/-- The properties whose flags are set have their clauses written, in order. -/
theorem filterMap_clauses_eq (d : Dialect) (after : Column) (changes : ChangeFlags) :
    (clauses d after changes).filterMap id =
      (Property.all.filter (·.isFlagged changes)).map (·.clause d after) := by
  have hclauses : clauses d after changes = Property.all.map fun p =>
      if p.isFlagged changes then some (p.clause d after) else none := rfl
  rw [hclauses, List.filterMap_map, ← List.filterMap_eq_filter, List.map_filterMap]
  congr 1
  funext p
  by_cases hp : p.isFlagged changes = true <;> simp [Option.guard, hp]

/-- Only the properties that differ have their clauses written. -/
theorem filterMap_clauses_between (d : Dialect) (before after : Column) :
    (clauses d after (.between before after)).filterMap id =
      (differing before after).map (·.clause d after) := by
  have hflags : ∀ p : Property,
      p.isFlagged (.between before after) = decide (p.Differs before after) := by
    intro p
    cases p <;> rfl
  rw [filterMap_clauses_eq, differing, List.filter_congr fun p _ => hflags p]

theorem trailers_between (hafter : after.hasName = true) :
    (alterStatement d before.label after (.between before after)).trailers =
      if before.description? = after.description? then []
      else [commentStatement .domain (d.identifier after.label) after.description? ";"] := by
  rw [alterStatement_eq, commentTrailer, if_pos hafter]
  by_cases h : before.description? = after.description? <;> simp [ChangeFlags.between, h]

theorem text_between_eq_noChanges_iff (hafter : after.hasName = true) :
    (alterStatement d before.label after (.between before after)).text = noChanges ↔
      Unchanged before after := by
  have htrailers : ∀ trailer ∈
      (alterStatement d before.label after (.between before after)).trailers,
      AlterStatement.IsStatement trailer := by
    rw [trailers_between hafter]
    split
    · simp
    · simpa using AlterStatement.isStatement_commentStatement ..
  rw [AlterStatement.text_eq_noChanges_iff htrailers, trailers_between hafter, alterStatement_eq,
    filterMap_clauses_between, List.map_eq_nil_iff, unchanged_iff]
  simp

/-! ### The script -/

/-- What alters the domain itself, if there is a clause for it. -/
def alteringText (d : Dialect) (before : Column) (clauses : List String) : String :=
  if clauses = [] then ""
  else
    "ALTER DOMAIN " ++ d.identifier before.label ++ Text.concat (clauses.map ("\n" ++ ·)) ++ ";\n"

/-- The comment on the domain by its new name, if there is another description. -/
def commentingText (d : Dialect) (before after : Column) : String :=
  if before.description? = after.description? then ""
  else "COMMENT ON DOMAIN " ++ d.identifier after.label ++ " IS " ++
    commentValue after.description? ++ ";\n"

theorem body_between :
    (alterStatement d before.label after (.between before after)).body =
      alteringText d before ((differing before after).map (·.clause d after)) := by
  rw [alterStatement_eq, filterMap_clauses_between, AlterStatement.body, alteringText]
  simp only [List.isEmpty_iff]

theorem concat_trailers_between (hafter : after.hasName = true) :
    Text.concat (alterStatement d before.label after (.between before after)).trailers =
      commentingText d before after := by
  rw [trailers_between hafter, commentingText]
  split
  · rfl
  · unfold commentStatement
    simp [← String.toList_inj, ObjectKind.keyword]

theorem text_between (hafter : after.hasName = true) (h : ¬Unchanged before after) :
    (alterStatement d before.label after (.between before after)).text =
      alteringText d before ((differing before after).map (·.clause d after)) ++
        commentingText d before after := by
  have hsome : (alterStatement d before.label after (.between before after)).isEmpty = false := by
    rw [← text_between_eq_noChanges_iff (d := d) hafter] at h
    exact AlterStatement.isEmpty_eq_false_of_text_ne h
  rw [AlterStatement.text_of_isEmpty_eq_false hsome, body_between, concat_trailers_between hafter]

/-! ### What altering comes to -/

theorem alter_eq_error_iff {reason : StatementError} (hbefore : before.hasName = true) :
    alter d before after = .error reason ↔
      after.hasName = false ∧ reason = .domainWithoutNewName := by
  cases hafter : after.hasName with
  | true => simp [alter_eq_ok hbefore hafter]
  | false =>
    -- A name that is blank now was not blank before, so it counts as changed.
    have hrenamed : before.name ≠ after.name := by
      intro hname
      rw [hasName_congr hname, hafter] at hbefore
      contradiction
    simp [alter, alterFlagged, ChangeFlags.between, hbefore, hafter, hrenamed, eq_comm]

theorem alter_eq_noChanges_iff :
    alter d before after = .ok noChanges ↔ before.hasName = true ∧ Unchanged before after := by
  cases hbefore : before.hasName with
  | false => simp [alter, hbefore]
  | true =>
    cases hafter : after.hasName with
    | true =>
      rw [alter_eq_ok hbefore hafter, Except.ok.injEq, text_between_eq_noChanges_iff hafter]
      simp
    | false =>
      have hchanged : ¬Unchanged before after := by
        intro h
        rw [hasName_congr h.name, hafter] at hbefore
        contradiction
      simp [(alter_eq_error_iff hbefore).2 ⟨hafter, rfl⟩, hchanged]

theorem alter_noChanges_symm (h : alter d before after = .ok noChanges) :
    alter d after before = .ok noChanges := by
  obtain ⟨hname, hunchanged⟩ := alter_eq_noChanges_iff.1 h
  rw [hasName_congr hunchanged.name] at hname
  exact alter_eq_noChanges_iff.2 ⟨hname, hunchanged.symm⟩

theorem alter_noChanges_trans {last : Column} (h : alter d before after = .ok noChanges)
    (h' : alter d after last = .ok noChanges) : alter d before last = .ok noChanges := by
  obtain ⟨hname, hunchanged⟩ := alter_eq_noChanges_iff.1 h
  obtain ⟨-, hunchanged'⟩ := alter_eq_noChanges_iff.1 h'
  exact alter_eq_noChanges_iff.2 ⟨hname, hunchanged.trans hunchanged'⟩

/-- A domain can be altered unless it loses its name. The script says that there is nothing to
change exactly when both versions agree in all that is compared; otherwise it has a clause for each
property that differs, in order, and a comment for another description. Edits that change nothing
can be taken back, and two of them in a row change nothing. -/
theorem alter_eq_differences (d : Dialect) {before after : Column}
    (hbefore : before.hasName = true) :
    ((∃ reason, alter d before after = .error reason) ↔ after.hasName = false) ∧
    (after.hasName = true →
      (alter d before after = .ok noChanges ↔ Unchanged before after) ∧
      (¬Unchanged before after →
        ∃ clauses, List.Forall₂ (Property.IsSetBy d after) (differing before after) clauses ∧
          alter d before after =
            .ok (alteringText d before clauses ++ commentingText d before after))) ∧
    (alter d before after = .ok noChanges → alter d after before = .ok noChanges) ∧
    ∀ last, alter d before after = .ok noChanges → alter d after last = .ok noChanges →
      alter d before last = .ok noChanges := by
  refine ⟨by simp [alter_eq_error_iff hbefore], fun hafter => ⟨?_, fun hchanged => ?_⟩,
    alter_noChanges_symm, fun _ => alter_noChanges_trans⟩
  · simp [alter_eq_noChanges_iff, hbefore]
  · refine ⟨(differing before after).map (·.clause d after), ?_, ?_⟩
    · rw [List.forall₂_map_right_iff, List.forall₂_same]
      exact fun p _ => Property.isSetBy_clause d after p
    · rw [alter_eq_ok hbefore hafter, text_between hafter hchanged]

def money : Column := {
  Column.ofType "D_MONEY" "NUMERIC" with
  default := .given "0", check := some " ", description := some "Amount" }

def price : Column := {
  money with name := some "D_PRICE", default := {}, description := some "Price" }

/-- Another name, no default any more and another description; then a name that is blank; and last
checks that are blank or not there, which are the same. -/
theorem alter_differences_money :
    alter {} money price = .ok ("ALTER DOMAIN D_MONEY\nTO D_PRICE\nDROP DEFAULT;\n" ++
      "COMMENT ON DOMAIN D_PRICE IS 'Price';\n") ∧
    (∃ reason, alter {} money { money with name := some " " } = .error reason) ∧
    alter {} money { money with check := none } = .ok noChanges ∧
    alter {} { money with check := none } money = .ok noChanges ∧
    alter {} money { money with check := some "" } = .ok noChanges := by
  have hname : money.hasName = true := by decide
  obtain ⟨-, hprice, -, -⟩ := @alter_eq_differences {} money price hname
  obtain ⟨hfailure, -, -, -⟩ :=
    @alter_eq_differences {} money { money with name := some " " } hname
  obtain ⟨-, hsame, hback, hon⟩ := @alter_eq_differences {} money { money with check := none } hname
  obtain ⟨-, hsame', -, -⟩ :=
    @alter_eq_differences {} { money with check := none } { money with check := some "" } hname
  have hscript : alter {} money price = .ok ("ALTER DOMAIN D_MONEY\nTO D_PRICE\nDROP DEFAULT;\n" ++
      "COMMENT ON DOMAIN D_PRICE IS 'Price';\n") := by
    have hchanged : ¬Unchanged money price := fun h => absurd h.default (by decide)
    have hdiffering : differing money price = [.name, .default] := by decide
    obtain ⟨clauses, hclauses, htext⟩ := (hprice (by decide)).2 hchanged
    rw [hdiffering] at hclauses
    obtain _ | ⟨⟨⟩, _ | ⟨hdefault, ⟨⟩⟩⟩ := hclauses
    cases hdefault with
    | setDefault h => contradiction
    | dropDefault =>
      refine htext.trans (congrArg Except.ok ?_)
      decide +kernel
  have hnone : alter {} money { money with check := none } = .ok noChanges :=
    (hsame hname).1.2 ⟨rfl, rfl, rfl, by decide, rfl, rfl⟩
  have hblank : alter {} { money with check := none } { money with check := some "" } =
      .ok noChanges := (hsame' hname).1.2 ⟨rfl, rfl, rfl, by decide, rfl, rfl⟩
  exact ⟨hscript, hfailure.2 (by decide), hnone, hback hnone, hon _ hnone hblank⟩

end SchemaScript.Domain
