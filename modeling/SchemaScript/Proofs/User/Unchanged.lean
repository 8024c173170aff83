import SchemaScript.Proofs.AlterStatement
import SchemaScript.User.Alter

/-! When a user is left as it is. A blank name or comment counts as an absent one, a blank password
or plugin as the old one, and everything else is compared as it stands. A user that is left as it is
would also be created by the same script, unless a password or a plugin has been blanked out. -/

namespace SchemaScript.User

variable {d : Dialect} {before after : User}

/-- A value that is blank afterwards stays as it was. -/
def Kept (before after : Option String) : Prop :=
  Text.given after = none ∨ Text.given before = Text.given after

structure Unchanged (before after : User) : Prop where
  firstName : Text.given before.firstName = Text.given after.firstName
  middleName : Text.given before.middleName = Text.given after.middleName
  lastName : Text.given before.lastName = Text.given after.lastName
  comment : Text.given before.comment = Text.given after.comment
  active : before.active = after.active
  admin : before.admin = after.admin
  tags : before.tags = after.tags
  password : Kept before.password after.password
  plugin : Kept before.plugin after.plugin

/-! ### Clauses -/

theorem nameClause?_eq_none_iff (keyword : String) (before after : Option String) :
    nameClause? keyword before after = none ↔ Text.given before = Text.given after := by
  simp [nameClause?]

theorem newValue?_eq_none_iff (before after : Option String) :
    newValue? before after = none ↔ Kept before after := by
  unfold newValue? Kept
  cases hafter : Text.given after with
  | none => simp
  | some value => simp

theorem tagClause?_eq_none_iff (before after : Dictionary String) :
    tagClause? before after = none ↔ before = after := by
  simp [tagClause?]

theorem commentTrailer?_eq_none_iff :
    commentTrailer? d before after = none ↔
      Text.given before.comment = Text.given after.comment := by
  simp [commentTrailer?]

theorem filterMap_clauses_eq_nil_iff :
    (clauses before after).filterMap id = [] ∧ (commentTrailer? d before after).toList = [] ↔
      Unchanged before after := by
  have hall : (clauses before after).filterMap id = [] ↔
      ∀ clause ∈ clauses before after, clause = none := by
    rw [List.filterMap_eq_nil_iff]
    rfl
  rw [hall, Option.toList_eq_nil_iff, commentTrailer?_eq_none_iff]
  simp only [clauses, List.forall_mem_cons, List.not_mem_nil, false_imp_iff, implies_true, and_true,
    nameClause?_eq_none_iff, Option.map_eq_none_iff, newValue?_eq_none_iff, tagClause?_eq_none_iff,
    ite_eq_left_iff, reduceCtorEq, imp_false, Decidable.not_not]
  constructor
  · rintro ⟨⟨hfirst, hmiddle, hlast, hpassword, hactive, hadmin, hplugin, htags⟩, hcomment⟩
    exact ⟨hfirst, hmiddle, hlast, hcomment, hactive, hadmin, htags, hpassword, hplugin⟩
  · rintro ⟨hfirst, hmiddle, hlast, hcomment, hactive, hadmin, htags, hpassword, hplugin⟩
    exact ⟨⟨hfirst, hmiddle, hlast, hpassword, hactive, hadmin, hplugin, htags⟩, hcomment⟩

/-! ### Statements -/

theorem alterStatement_eq (d : Dialect) (before after : User) :
    alterStatement d before after =
      ⟨"ALTER USER " ++ d.identifier before.name, "\n\t", (clauses before after).filterMap id,
        (commentTrailer? d before after).toList⟩ := by
  simp only [alterStatement, AlterStatement.foldl_addClause]
  rfl

theorem isStatement_commentTrailer {trailer : String}
    (h : commentTrailer? d before after = some trailer) : AlterStatement.IsStatement trailer := by
  unfold commentTrailer? at h
  split at h
  · contradiction
  · rw [← Option.some.inj h]
    exact AlterStatement.isStatement_commentStatement ..

theorem alter_eq_noChanges_iff (d : Dialect) (before after : User) :
    alter d before after = noChanges ↔ Unchanged before after := by
  have htrailers : ∀ trailer ∈ (alterStatement d before after).trailers,
      AlterStatement.IsStatement trailer := by
    intro trailer htrailer
    rw [alterStatement_eq] at htrailer
    exact isStatement_commentTrailer (Option.mem_toList.1 htrailer)
  unfold alter
  rw [AlterStatement.text_eq_noChanges_iff htrailers, alterStatement_eq]
  exact filterMap_clauses_eq_nil_iff

/-- A value that was not blanked out is kept as it was. -/
theorem Kept.given_eq {before after : Option String} (h : Kept before after)
    (hgiven : Text.given before ≠ none → Text.given after ≠ none) :
    Text.given before = Text.given after := by
  rcases h with hblank | hsame
  · by_cases hbefore : Text.given before = none
    · rw [hbefore, hblank]
    · exact absurd hblank (hgiven hbefore)
  · exact hsame

theorem create_congr (hname : before.name = after.name) (h : Unchanged before after)
    (hpassword : Text.given before.password = Text.given after.password)
    (hplugin : Text.given before.plugin = Text.given after.plugin) :
    create d before = create d after := by
  have hcomment : ∀ name, SchemaScript.comment d .user name before.comment ";" =
      SchemaScript.comment d .user name after.comment ";" := by
    intro name
    rw [SchemaScript.comment, SchemaScript.comment, h.comment]
  have hline : ∀ keyword {first second : Option String}, Text.given first = Text.given second →
      literalLine keyword first = literalLine keyword second := by
    intro keyword first second hsame
    rw [literalLine, literalLine, hsame]
  unfold create
  rw [hname, hline _ h.firstName, hline _ h.middleName, hline _ h.lastName, hline _ hpassword,
    h.active, h.admin, hplugin, h.tags, hcomment]

/-- Without a new password the old one has no part in the script. -/
theorem alter_withPassword (h : Text.given after.password = none) (password : Option String) :
    alter d { before with password } after = alter d before after := by
  have hclauses : clauses { before with password } after = clauses before after := by
    simp only [clauses, newValue?, h, Option.filter_none]
  have htrailer : commentTrailer? d { before with password } after =
      commentTrailer? d before after := rfl
  unfold alter
  rw [alterStatement_eq, alterStatement_eq, hclauses, htrailer]

/-- A user is altered exactly when something that counts has changed. Where nothing has and neither
the password nor the plugin was blanked out, both versions are created alike. A blank new password
leaves the script without a trace of the old one. -/
theorem alter_unchanged_iff (d : Dialect) (before after : User) :
    (alter d before after = noChanges ↔ Unchanged before after) ∧
    (before.name = after.name →
      (Text.given before.password ≠ none → Text.given after.password ≠ none) →
      (Text.given before.plugin ≠ none → Text.given after.plugin ≠ none) →
      alter d before after = noChanges → create d before = create d after) ∧
    (Text.given after.password = none →
      ∀ password, alter d { before with password } after = alter d before after) := by
  refine ⟨alter_eq_noChanges_iff d before after, ?_, alter_withPassword⟩
  intro hname hpassword hplugin hnoChanges
  have hunchanged := (alter_eq_noChanges_iff d before after).1 hnoChanges
  exact create_congr hname hunchanged (hunchanged.password.given_eq hpassword)
    (hunchanged.plugin.given_eq hplugin)

/-- A blank middle name is none, and a password that is not known is left alone. -/
theorem alter_unchanged_alice :
    let alice : User := {
      name := "ALICE", lastName := some "O'Hara", middleName := some " ", plugin := some "Srp",
      tags := .ofList [("DEPT", "sales")] }
    let known : User := { alice with password := some "secret" }
    (alter {} alice { alice with middleName := none } = noChanges ∧
      create {} alice = create {} { alice with middleName := none }) ∧
    alter {} known { alice with active := false } = alter {} alice { alice with active := false } ∧
    alter {} alice { alice with active := false } ≠ noChanges := by
  intro alice known
  obtain ⟨hiff, hcreate, -⟩ := alter_unchanged_iff {} alice { alice with middleName := none }
  have hsame : alter {} alice { alice with middleName := none } = noChanges :=
    hiff.2 ⟨rfl, by decide, rfl, rfl, rfl, rfl, rfl, .inl rfl, .inr rfl⟩
  obtain ⟨hchanged, -, hpassword⟩ := alter_unchanged_iff {} alice { alice with active := false }
  refine ⟨⟨hsame, hcreate rfl id id hsame⟩, hpassword rfl (some "secret"), fun h => ?_⟩
  exact absurd (hchanged.1 h).active (by decide)

end SchemaScript.User
