import SchemaScript.Proofs.Comment
import SchemaScript.Proofs.Dialect.Identifier
import SchemaScript.Proofs.Text.Blank
import SchemaScript.Proofs.Text.Masked
import SchemaScript.User

/-! Texts that a user brings into the script that creates it. First names, passwords, values of tags
and comments stand in literals, so they do not reach the statements around them: once literals are
covered, the script shows which of these texts are there and nothing of what they say. -/

namespace SchemaScript

open Text

/-- A name is written without a single quote, or as a literal where single quotes are the dialect's.
-/
theorem Dialect.maskedAlike_identifier {front name : String} (hne : front ≠ "")
    (hfront : '\'' ∉ front.toList) (hname : '\'' ∉ name.toList) (d : Dialect) :
    MaskedAlike (front ++ d.identifier name) (front ++ d.identifier name) := by
  have hbare {text : String} (htext : '\'' ∉ text.toList) :
      MaskedAlike (front ++ text) (front ++ text) :=
    (maskedAlike_of_notMem hfront).append (maskedAlike_of_notMem htext)
  cases hquoted : d.isQuoted name with
  | true =>
    rw [identifier_of_isQuoted hquoted]
    exact hbare hname
  | false =>
    rcases identifier_eq_or hquoted with hsame | hmarked
    · rw [hsame]
      exact hbare hname
    · rw [hmarked]
      by_cases hquote : d.quote = '\''
      · rw [hquote]
        exact maskedAlike_literal hne hfront name name
      · exact hbare (notMem_quotedBy (Ne.symm hquote) hname)

namespace User

/-- Nothing that stands outside literals has a single quote in it. -/
structure HasPlainWords (u : User) : Prop where
  name : '\'' ∉ u.name.toList
  plugin : ∀ plugin, u.plugin = some plugin → '\'' ∉ plugin.toList
  tags : ∀ key ∈ u.tags.keys, '\'' ∉ key.toList

/-- Both comments are blank, or both become literals. -/
def CommentsAlike (first second : Option String) : Prop :=
  (given first = none ∧ given second = none) ∨
    ∃ v w, given first = some v ∧ given second = some w ∧ v ≠ "NULL" ∧ w ≠ "NULL"

/-- Two users that differ in the contents of literals only. -/
structure AlikeButTexts (first second : User) : Prop where
  name : first.name = second.name
  plugin : first.plugin = second.plugin
  tagKeys : first.tags.keys = second.tags.keys
  active : first.active = second.active
  admin : first.admin = second.admin
  firstName : (given first.firstName).isSome = (given second.firstName).isSome
  middleName : (given first.middleName).isSome = (given second.middleName).isSome
  lastName : (given first.lastName).isSome = (given second.lastName).isSome
  password : (given first.password).isSome = (given second.password).isSome
  comment : CommentsAlike first.comment second.comment

/-! ### Clauses -/

theorem maskedAlike_literalLine (keyword : String) (hkeyword : '\'' ∉ keyword.toList)
    {first second : Option String} (h : (given first).isSome = (given second).isSome) :
    MaskedAlike (literalLine keyword first) (literalLine keyword second) :=
  maskedAlike_optional h fun v w _ _ => maskedAlike_literal (by simp) (by simpa using hkeyword) v w

theorem maskedAlike_pluginLine {plugin : Option String}
    (h : ∀ text, plugin = some text → '\'' ∉ text.toList) :
    MaskedAlike (optional ("\nUSING PLUGIN " ++ trim ·) (given plugin))
      (optional ("\nUSING PLUGIN " ++ trim ·) (given plugin)) := by
  refine maskedAlike_optional rfl fun v w hv hw => ?_
  obtain rfl := Option.some.inj (hv.symm.trans hw)
  exact (maskedAlike_of_notMem (by decide)).append
    (maskedAlike_of_notMem (notMem_trim (h v (given_eq_some.1 hv).1)))

theorem maskedAlike_tagText {key : String} (h : '\'' ∉ key.toList) (first second : String) :
    MaskedAlike (tagText key first) (tagText key second) :=
  maskedAlike_literal (by simp) (by simpa using h) first second

theorem maskedAlike_tagTexts {first second : List (String × String)}
    (hkeys : first.map (·.1) = second.map (·.1)) (h : ∀ tag ∈ first, '\'' ∉ tag.1.toList) :
    List.Forall₂ MaskedAlike (first.map fun tag => tagText tag.1 tag.2)
      (second.map fun tag => tagText tag.1 tag.2) := by
  induction first generalizing second with
  | nil =>
    obtain rfl := List.map_eq_nil_iff.1 hkeys.symm
    exact .nil
  | cons tag rest ih =>
    obtain ⟨other, others, rfl, hkey, hrest⟩ := List.map_eq_cons_iff.1 hkeys.symm
    obtain ⟨htag, htags⟩ := List.forall_mem_cons.1 h
    rw [List.map_cons, List.map_cons, hkey]
    exact .cons (maskedAlike_tagText htag tag.2 other.2) (ih hrest.symm htags)

theorem maskedAlike_tagLine {first second : Dictionary String} (hkeys : first.keys = second.keys)
    (h : ∀ key ∈ first.keys, '\'' ∉ key.toList) :
    MaskedAlike
      (whenTrue (!first.entries.isEmpty)
        ("\n" ++ tagList (first.entries.map fun tag => tagText tag.1 tag.2)))
      (whenTrue (!second.entries.isEmpty)
        ("\n" ++ tagList (second.entries.map fun tag => tagText tag.1 tag.2))) := by
  have hempty : first.entries.isEmpty = second.entries.isEmpty := by
    simpa [Dictionary.keys] using congrArg List.isEmpty hkeys
  have htags : ∀ tag ∈ first.entries, '\'' ∉ tag.1.toList :=
    fun tag htag => h tag.1 (List.mem_map_of_mem htag)
  rw [hempty]
  cases second.entries.isEmpty with
  | true => exact maskedAlike_empty
  | false =>
    have hnewline : MaskedAlike "\n" "\n" := maskedAlike_of_notMem (by decide)
    have hopening : MaskedAlike "TAGS (" "TAGS (" := maskedAlike_of_notMem (by decide)
    have hclosing : MaskedAlike ")" ")" := maskedAlike_of_notMem (by decide)
    have hcomma : '\'' ∉ ", ".toList := by decide
    have hlist := maskedAlike_separatedBy hcomma (maskedAlike_tagTexts hkeys htags)
    exact hnewline.append ((hopening.append hlist).append hclosing)

theorem maskedAlike_comment (d : Dialect) {name : String} (hname : '\'' ∉ name.toList)
    {first second : Option String} (h : CommentsAlike first second) :
    MaskedAlike (SchemaScript.comment d .user name first ";")
      (SchemaScript.comment d .user name second ";") := by
  rcases h with ⟨hfirst, hsecond⟩ | ⟨v, w, hfirst, hsecond, hv, hw⟩
  · rw [SchemaScript.comment, SchemaScript.comment, hfirst, hsecond]
    exact maskedAlike_empty
  · have hobject : MaskedAlike
        ("COMMENT ON " ++ ObjectKind.user.keyword ++ " " ++ d.identifier name)
        ("COMMENT ON " ++ ObjectKind.user.keyword ++ " " ++ d.identifier name) :=
      Dialect.maskedAlike_identifier (by decide) (by decide) hname d
    have htext : MaskedAlike (" IS " ++ literal v) (" IS " ++ literal w) :=
      maskedAlike_literal (by decide) (by decide) v w
    have hend : MaskedAlike (";" ++ "\n") (";" ++ "\n") := maskedAlike_of_notMem (by decide)
    rw [comment_eq hfirst hv, comment_eq hsecond hw]
    simpa only [String.append_assoc] using (hobject.append htext).append hend

/-! ### Scripts -/

theorem maskedAlike_create (d : Dialect) {first second : User} (hwords : first.HasPlainWords)
    (h : first.AlikeButTexts second) : MaskedAlike (create d first) (create d second) := by
  have hname : MaskedAlike ("CREATE USER " ++ d.identifier first.name)
      ("CREATE USER " ++ d.identifier first.name) :=
    Dialect.maskedAlike_identifier (by decide) (by decide) hwords.name d
  have hfirst := maskedAlike_literalLine "FIRSTNAME" (by decide) h.firstName
  have hmiddle := maskedAlike_literalLine "MIDDLENAME" (by decide) h.middleName
  have hlast := maskedAlike_literalLine "LASTNAME" (by decide) h.lastName
  have hpassword := maskedAlike_literalLine "PASSWORD" (by decide) h.password
  have hnewline : MaskedAlike "\n" "\n" := maskedAlike_of_notMem (by decide)
  have hactive : MaskedAlike (activityWord first.active) (activityWord first.active) := by
    cases first.active <;> exact maskedAlike_of_notMem (by decide)
  have hadmin : MaskedAlike (whenTrue first.admin "\nGRANT ADMIN ROLE")
      (whenTrue first.admin "\nGRANT ADMIN ROLE") := by
    cases first.admin <;> exact maskedAlike_of_notMem (by decide)
  have hplugin := maskedAlike_pluginLine hwords.plugin
  have htags := maskedAlike_tagLine h.tagKeys hwords.tags
  have hend : MaskedAlike ";\n" ";\n" := maskedAlike_of_notMem (by decide)
  have hcomment := maskedAlike_comment d hwords.name h.comment
  unfold create
  rw [← h.name, ← h.active, ← h.admin, ← h.plugin]
  exact hname |>.append hfirst |>.append hmiddle |>.append hlast |>.append hpassword
    |>.append hnewline |>.append hactive |>.append hadmin |>.append hplugin |>.append htags
    |>.append hend |>.append hcomment

/-- Users that differ in nothing but what their texts say are created by the same script once its
literals are covered. -/
theorem mask_create (d : Dialect) {first second : User} (hwords : first.HasPlainWords)
    (h : first.AlikeButTexts second) :
    mask (create d first).toList = mask (create d second).toList :=
  (maskedAlike_create d hwords h).mask_eq

/-- Where single quotes are the dialect's too, texts full of quotes and statements stay inside their
literals. -/
theorem mask_create_alice :
    let d : Dialect := { quote := '\'' }
    let alice : User := {
      name := "alice", lastName := some "Hara", password := some "secret", plugin := some "Srp",
      tags := .ofList [("DEPT", "sales"), ("FLOOR", "")], comment := some "Sales lead" }
    let mallory : User := { alice with
      lastName := some "'; DROP USER ADMIN; --", password := some "'",
      tags := .ofList [("DEPT", "'), ('"), ("FLOOR", "''")], comment := some "NULL'" }
    alice.HasPlainWords ∧ alice.AlikeButTexts mallory ∧
      create d alice ≠ create d mallory ∧
      mask (create d alice).toList = mask (create d mallory).toList := by
  intro d alice mallory
  have hwords : alice.HasPlainWords := by
    refine ⟨by decide, ?_, by decide +kernel⟩
    intro plugin hplugin
    obtain rfl := Option.some.inj hplugin
    decide
  have halike : alice.AlikeButTexts mallory :=
    { name := rfl, plugin := rfl, tagKeys := by decide +kernel, active := rfl, admin := rfl,
      firstName := rfl, middleName := rfl, lastName := by decide, password := by decide,
      comment := .inr ⟨"Sales lead", "NULL'", by decide, by decide, by decide, by decide⟩ }
  exact ⟨hwords, halike, by decide +kernel, mask_create d hwords halike⟩

end User

end SchemaScript
