import SchemaScript.Proofs.Domain.Tracking

/-! Which domain is commented on when a domain is altered. The comment comes behind the clauses, and
one of them may have given the domain another name. A comparison of two versions always comments on
the domain as it is called by then. So do the flags that an edit has left, unless they comment on a
domain whose name has become another one without a flag for it. -/

namespace SchemaScript.Domain

variable {d : Dialect} {oldName : String} {after : Column} {changes : ChangeFlags}

/-! ### The name while the clauses run -/

/-- The name of the domain, as it is written, after a clause: `TO` brings a new one. -/
def nameAfter (name clause : String) : String :=
  if "TO ".toList.isPrefixOf clause.toList then .ofList (clause.toList.drop 3) else name

theorem nameAfter_clause (d : Dialect) (after : Column) (name : String) (p : Property) :
    nameAfter name (p.clause d after) = if p = .name then d.identifier after.label else name := by
  cases p with
  | name => simp [nameAfter, Property.clause, renameClause]
  | default =>
    simp only [Property.clause, defaultClause]
    split <;> simp [nameAfter]
  | required =>
    simp only [Property.clause, requiredClause]
    split <;> simp [nameAfter]
  | check =>
    simp only [Property.clause, checkClause]
    split <;> simp [nameAfter]
  | type => simp [nameAfter, Property.clause, typeClause]

theorem foldl_nameAfter (d : Dialect) (after : Column) (name : String) (ps : List Property) :
    (ps.map (·.clause d after)).foldl nameAfter name =
      if .name ∈ ps then d.identifier after.label else name := by
  induction ps generalizing name with
  | nil => rfl
  | cons p rest ih =>
    rw [List.map_cons, List.foldl_cons, ih, nameAfter_clause]
    by_cases hrest : Property.name ∈ rest
    · rw [if_pos hrest, if_pos (List.mem_cons_of_mem _ hrest)]
    · simp [hrest, eq_comm]

/-- The name that the clauses of a statement leave the domain with. -/
def finalName (statement : AlterStatement) (name : String) : String :=
  statement.clauses.foldl nameAfter name

theorem finalName_alterStatement (d : Dialect) (oldName : String) (after : Column)
    (changes : ChangeFlags) (name : String) :
    finalName (alterStatement d oldName after changes) name =
      if changes.name then d.identifier after.label else name := by
  have hflag : Property.name ∈ Property.all.filter (·.isFlagged changes) ↔
      changes.name = true := by
    simp [Property.all, Property.isFlagged]
  rw [finalName, alterStatement_eq, filterMap_clauses_eq, foldl_nameAfter]
  simp only [hflag]

/-! ### The comment -/

theorem commentStatement_left_inj {kind : ObjectKind} {first second : String}
    {text : Option String} {delimiter : String} :
    commentStatement kind first text delimiter = commentStatement kind second text delimiter ↔
      first = second := by
  unfold commentStatement
  simp only [String.append_left_inj, String.append_right_inj]

/-- Every comment behind the clauses is on the domain as they leave it. -/
def CommentsOnDomain (d : Dialect) (oldName : String) (after : Column) (changes : ChangeFlags) :
    Prop :=
  let statement := alterStatement d oldName after changes
  ∀ trailer ∈ statement.trailers, trailer =
    commentStatement .domain (finalName statement (d.identifier oldName)) after.description? ";"

theorem commentsOnDomain_iff (hnamed : changes.name = true → after.hasName = true) :
    CommentsOnDomain d oldName after changes ↔
      (changes.description = true → changes.name = false → after.hasName = true →
        d.identifier after.label = d.identifier oldName) := by
  have htrailers : (alterStatement d oldName after changes).trailers =
      (if changes.description then some (commentTrailer d oldName after) else none).toList := by
    rw [alterStatement_eq]
  simp only [CommentsOnDomain, htrailers, finalName_alterStatement, Option.mem_toList]
  cases changes.description with
  | false => simp
  | true =>
    simp only [if_true, Option.some.injEq, forall_eq', commentTrailer, commentStatement_left_inj]
    cases hflag : changes.name with
    | true => simp [hnamed hflag]
    | false => cases after.hasName <;> simp

theorem alterFlagged_eq_ok_iff {text : String} :
    alterFlagged d oldName after changes = .ok text ↔
      (changes.name = true → after.hasName = true) ∧
        text = (alterStatement d oldName after changes).text := by
  unfold alterFlagged
  cases changes.name <;> cases after.hasName <;> simp [eq_comm]

/-! ### Scripts -/

theorem flagged_of_alter {before : Column} {text : String} (h : alter d before after = .ok text) :
    alterFlagged d before.label after (.between before after) = .ok text := by
  unfold alter at h
  split at h
  · contradiction
  · exact h

theorem flagged_of_alterTracked {current : Column} {text : String}
    (h : alterTracked d oldName current = .ok text) :
    alterFlagged d oldName current current.changes = .ok text := by
  unfold alterTracked at h
  split at h
  · contradiction
  · exact h

/-- Where a comparison sees the old name, it is still there. -/
theorem label_eq_of_between {before : Column}
    (h : (ChangeFlags.between before after).name = false) : after.label = before.label := by
  have hname : before.name = after.name := by simpa [ChangeFlags.between] using h
  rw [Column.label, Column.label, hname]

/-- A comparison of two versions comments on the domain as its own clauses leave it. Flags do so
unless they say that there is another description, do not say that there is another name, and the
domain is not called what it was called before; tracked changes are never like that. -/
theorem alter_commentsOnDomain (d : Dialect) :
    (∀ before after text, alter d before after = .ok text →
      text = (alterStatement d before.label after (.between before after)).text ∧
      CommentsOnDomain d before.label after (.between before after)) ∧
    (∀ oldName current text, alterTracked d oldName current = .ok text →
      text = (alterStatement d oldName current current.changes).text ∧
      (CommentsOnDomain d oldName current current.changes ↔
        (current.changes.description = true → current.changes.name = false →
          current.hasName = true → d.identifier current.label = d.identifier oldName))) ∧
    ∀ snapshot current text,
      alterTracked d snapshot.label (current.trackChanges snapshot) = .ok text →
      CommentsOnDomain d snapshot.label (current.trackChanges snapshot)
        (.between snapshot current) := by
  refine ⟨fun before after text h => ?_, fun oldName current text h => ?_,
    fun snapshot current text h => ?_⟩
  · obtain ⟨hnamed, htext⟩ := alterFlagged_eq_ok_iff.1 (flagged_of_alter h)
    refine ⟨htext, (commentsOnDomain_iff hnamed).2 fun _ hsame _ => ?_⟩
    rw [label_eq_of_between hsame]
  · obtain ⟨hnamed, htext⟩ := alterFlagged_eq_ok_iff.1 (flagged_of_alterTracked h)
    exact ⟨htext, commentsOnDomain_iff hnamed⟩
  · obtain ⟨hnamed, -⟩ := alterFlagged_eq_ok_iff.1 (flagged_of_alterTracked h)
    refine (commentsOnDomain_iff hnamed).2 fun _ hsame _ => ?_
    have hlabel : current.label = snapshot.label := label_eq_of_between hsame
    exact congrArg d.identifier hlabel

/-- A domain with another name and another description, by comparison and by its flags. -/
theorem alter_commentsOnDomain_price :
    alter {} money price = .ok ("ALTER DOMAIN D_MONEY\nTO D_PRICE\nDROP DEFAULT;\n" ++
      "COMMENT ON DOMAIN D_PRICE IS 'Price';\n") ∧
    CommentsOnDomain {} money.label price (.between money price) ∧
    CommentsOnDomain {} "D_MONEY" (price.trackChanges money) (price.trackChanges money).changes ∧
    CommentsOnDomain {} money.label (price.trackChanges money) (.between money price) := by
  have hscript : alter {} money price = .ok ("ALTER DOMAIN D_MONEY\nTO D_PRICE\nDROP DEFAULT;\n" ++
      "COMMENT ON DOMAIN D_PRICE IS 'Price';\n") := by decide +kernel
  have htracked : alterTracked {} "D_MONEY" (price.trackChanges money) =
      .ok ("ALTER DOMAIN D_MONEY\nTO D_PRICE\nDROP DEFAULT;\n" ++
        "COMMENT ON DOMAIN D_PRICE IS 'Price';\n") := by decide +kernel
  obtain ⟨hcompared, hflagged, hsnapshot⟩ := alter_commentsOnDomain {}
  refine ⟨hscript, (hcompared _ _ _ hscript).2, (hflagged _ _ _ htracked).2.2 fun _ h => ?_,
    hsnapshot money price _ htracked⟩
  exact absurd h (by decide)

/-- With a flag for the description alone, the comment is on a domain that nothing has made. -/
theorem alterTracked_commentsOnOther :
    let edited : Column := { price with changes := { description := true } }
    alterTracked {} "D_MONEY" edited = .ok "COMMENT ON DOMAIN D_PRICE IS 'Price';\n" ∧
      finalName (alterStatement {} "D_MONEY" edited edited.changes) "D_MONEY" = "D_MONEY" ∧
      ¬CommentsOnDomain {} "D_MONEY" edited edited.changes := by
  refine ⟨by decide +kernel, by decide +kernel, fun h => ?_⟩
  have hcomment := h _ (List.mem_singleton.2 rfl)
  exact absurd hcomment (by decide +kernel)

end SchemaScript.Domain
