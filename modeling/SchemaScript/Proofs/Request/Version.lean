import SchemaScript.Proofs.Dialect.NamesAlike

/-! What the version of the server changes. Names are written without it, so it shows in the scripts
of views and sequences only, and there in nothing but the side of the threshold that it is on. -/

namespace SchemaScript

/-! ### Dialects of several versions -/

/-- All but the versions are the same. -/
structure Dialect.SameButVersion (d e : Dialect) : Prop where
  quote : d.quote = e.quote
  alwaysQuote : d.alwaysQuote = e.alwaysQuote
  reserved : d.reserved = e.reserved

theorem Dialect.SameButVersion.namesAlike {d e : Dialect} (h : d.SameButVersion e) :
    d.NamesAlike e where
  identifier := by
    funext name
    unfold identifier isSafeUnquoted isQuoted isReserved
    rw [h.quote, h.alwaysQuote, h.reserved]

theorem Dialect.hasCreateOrAlter_eq_iff {d e : Dialect} :
    d.hasCreateOrAlter = e.hasCreateOrAlter ↔ (3 ≤ d.version ↔ 3 ≤ e.version) := by
  unfold hasCreateOrAlter
  rw [decide_eq_decide]

/-! ### Both sides of the threshold -/

variable {d e : Dialect}

theorem View.create_ne (hd : d.hasCreateOrAlter = true) (he : e.hasCreateOrAlter = false)
    (v : View) : v.create d ≠ v.create e := by
  intro h
  -- `CREATE OR`, `ALTER VIEW` and `CREATE VIEW` differ in the eighth letter.
  have hletter := congrArg (fun script => script.toList[7]?) h
  unfold create verb at hletter
  rw [if_pos hd, he, if_neg (by decide)] at hletter
  split at hletter <;> simp at hletter

theorem Sequence.create_ne (hd : d.hasCreateOrAlter = true) (he : e.hasCreateOrAlter = false)
    (s : Sequence) : s.create d ≠ s.create e := by
  intro h
  have hletter := congrArg (fun script => script.toList[7]?) h
  unfold create at hletter
  rw [if_pos hd, he, if_neg (by decide)] at hletter
  cases hexisting : s.isExisting <;> simp [hexisting, Text.whenTrue] at hletter

/-! ### Requests -/

namespace Request

/-- A view or a sequence. -/
def IsVersioned : Request → Prop
  | createView _ | createSequence _ => True
  | _ => False

/-- With names written alike, the version matters to views and sequences only. -/
theorem script_congr (h : d.NamesAlike e) {r : Request}
    (hversion : r.IsVersioned → d.hasCreateOrAlter = e.hasCreateOrAlter) :
    r.script d = r.script e := by
  cases r with
  | createTable table => exact congrFun h.createTable table
  | createDomain domain => exact congrFun h.createDomain domain
  | alterDomain edit => exact congrFun (congrFun h.alterDomain edit.before) edit.after
  | alterDomainTracked tracked =>
    exact congrFun (congrFun h.alterDomainTracked tracked.name) tracked.domain
  | createProcedure procedure => exact congrFun h.createProcedure procedure
  | createFunction function => exact congrFun h.createFunction function
  | createTrigger trigger => exact congrArg Except.ok (congrFun h.createTrigger trigger)
  | createView view => exact congrArg Except.ok (congrFun (h.createView (hversion trivial)) view)
  | createSequence sequence =>
    exact congrArg Except.ok (congrFun (h.createSequence (hversion trivial)) sequence)
  | createUser user => exact congrArg Except.ok (congrFun h.createUser user)
  | alterUser edit =>
    exact congrArg Except.ok (congrFun (congrFun h.alterUser edit.before) edit.after)
  | createCollation collation => exact congrArg Except.ok (congrFun h.createCollation collation)
  | createTablespace tablespace =>
    exact congrArg Except.ok (congrFun h.createTablespace tablespace)
  | createJob job => exact congrArg Except.ok (congrFun h.createJob job)
  | insert rows => exact congrArg Except.ok (congrFun h.insert rows)
  | insertPlaceholders rows => exact congrArg Except.ok (congrFun h.insertPlaceholders rows)
  | update rows => exact congrArg Except.ok (congrFun h.update rows)
  | select rows => exact congrArg Except.ok (congrFun h.select rows)
  | comment request =>
    unfold script
    rw [h.comment]
  | generateName request => rfl

theorem script_ne {r : Request} (hr : r.IsVersioned) (hd : d.hasCreateOrAlter = true)
    (he : e.hasCreateOrAlter = false) : r.script d ≠ r.script e := by
  cases r with
  | createView view => exact fun h => View.create_ne hd he view (Except.ok.inj h)
  | createSequence sequence => exact fun h => Sequence.create_ne hd he sequence (Except.ok.inj h)
  | _ => exact hr.elim

/-- Dialects that differ in the version at most give a request the same script, or the same error,
exactly when the request is no view and no sequence or both versions are on the same side of the
threshold. -/
theorem script_sameButVersion_iff (h : d.SameButVersion e) (r : Request) :
    r.script d = r.script e ↔ (r.IsVersioned → (3 ≤ d.version ↔ 3 ≤ e.version)) := by
  rw [← Dialect.hasCreateOrAlter_eq_iff]
  constructor
  · intro hsame hr
    cases hd : d.hasCreateOrAlter <;> cases he : e.hasCreateOrAlter
    · rfl
    · exact absurd hsame.symm (script_ne hr he hd)
    · exact absurd hsame (script_ne hr hd he)
    · rfl
  · exact script_congr h.namesAlike

/-- A sequence that old servers can only restart, and a domain that all servers alter alike. -/
theorem script_sameButVersion_orders :
    let old : Dialect := { version := 2, reserved := ["ORDERS"] }
    let sequence : Request :=
      .createSequence { name := "ORDERS", start := 10, increment := 5, isExisting := true }
    let rename : Request :=
      .alterDomain ⟨.ofType "ORDERS" "INTEGER", .ofType "D_ORDER" "BIGINT"⟩
    Dialect.SameButVersion old { old with version := 5 } ∧
      sequence.script old ≠ sequence.script { old with version := 5 } ∧
      sequence.script { old with version := 3 } = sequence.script { old with version := 5 } ∧
      rename.script old = rename.script { old with version := 5 } := by
  intro old sequence rename
  have hsame : ∀ first second,
      Dialect.SameButVersion { old with version := first } { old with version := second } :=
    fun _ _ => ⟨rfl, rfl, rfl⟩
  refine ⟨hsame 2 5, ?_, ?_, ?_⟩
  · rw [Ne, script_sameButVersion_iff (hsame 2 5)]
    exact fun h => absurd (h trivial) (by decide)
  · rw [script_sameButVersion_iff (hsame 3 5)]
    exact fun _ => by decide
  · rw [script_sameButVersion_iff (hsame 2 5)]
    exact False.elim

end Request

end SchemaScript
