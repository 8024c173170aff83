import SchemaScript.Column.Changes
import SchemaScript.Column.TypeText
import SchemaScript.Proofs.Text.Blank

/-! What the text of a type depends on. All that a signature holds, and two things that it does not:
the segment size of a blob, and the domain that a type is taken from. -/

namespace SchemaScript

theorem TypeFamily.ofName_eq_blob {name : String} (h : ofName name = blob) : name = "BLOB" := by
  unfold ofName at h
  split at h
  · contradiction
  split at h
  · contradiction
  split at h
  · contradiction
  split at h
  next hname => exact hname
  next => contradiction

namespace Column

variable {first second : Column}

/-- Outside blobs, the size of a segment is not written. -/
theorem familyClause_congr {family : TypeFamily}
    (h : first.typeSignature = second.typeSignature)
    (hsegment : family = .blob → first.segmentSize = second.segmentSize) :
    first.familyClause family = second.familyClause family := by
  simp only [typeSignature, TypeSignature.mk.injEq] at h
  obtain ⟨-, -, hsize, hscale, hsubtype, hcharset, -⟩ := h
  cases family with
  | character => simp only [familyClause, sizeClause, charsetClause, hsize, hcharset]
  | binary => simp only [familyClause, sizeClause, hsize]
  | exact => simp only [familyClause, hsize, hscale]
  | blob => simp only [familyClause, charsetClause, hsubtype, hcharset, hsegment rfl]
  | plain => rfl

/-- A blank name and an empty one are the same to a signature, and to the text of a type. -/
theorem namedTypeText_eq (c : Column) :
    c.namedTypeText = match c.typeSignature.name with
      | none => ""
      | some name =>
        if name = "" ∨ name.toList.contains '(' then name
        else name ++ c.familyClause (TypeFamily.ofName name) := by
  unfold namedTypeText typeSignature
  cases hname : c.typeName with
  | none => rfl
  | some name =>
    by_cases hblank : Text.isBlank name = true
    · have hgiven : Text.given (some name) = none := by simp [Text.given, Option.filter, hblank]
      have hempty := (Text.upper_trim_eq_empty_iff name).2 hblank
      simp [hgiven, hempty]
    · have hgiven : Text.given (some name) = some name := by
        simpa [Text.given_eq_some] using hblank
      have hne := mt (Text.upper_trim_eq_empty_iff name).1 hblank
      simp [hgiven, hne]

/-- A change of the type's own text that a signature misses is one of the segment size of a blob. -/
theorem segmentSize_ne_of_namedTypeText_ne (h : first.typeSignature = second.typeSignature)
    (htext : first.namedTypeText ≠ second.namedTypeText) :
    second.typeSignature.name = some "BLOB" ∧ first.segmentSize ≠ second.segmentSize := by
  rw [namedTypeText_eq, namedTypeText_eq, h] at htext
  cases hname : second.typeSignature.name with
  | none => simp [hname] at htext
  | some name =>
    rw [hname] at htext
    by_cases hplain : name = "" ∨ name.toList.contains '(' = true
    · simp only [if_pos hplain, ne_eq, not_true_eq_false] at htext
    · simp only [if_neg hplain] at htext
      have hclause : first.familyClause (.ofName name) ≠ second.familyClause (.ofName name) :=
        fun hsame => htext (by rw [hsame])
      by_cases hblob : TypeFamily.ofName name = .blob
      · refine ⟨by rw [TypeFamily.ofName_eq_blob hblob], fun hsegment => hclause ?_⟩
        exact familyClause_congr h fun _ => hsegment
      · exact absurd (familyClause_congr h fun hsame => absurd hsame hblob) hclause

/-- The two versions of a type look the same to an edit, and are written differently at most because
of what an edit does not look at. -/
structure UnseenChange (before after : Column) : Prop where
  sameSignature : before.typeSignature = after.typeSignature
  differs : after.typeOf = some .domain ∧ before.domain ≠ after.domain ∨
    after.typeOf = none ∧ after.typeSignature.name = some "BLOB" ∧
      before.segmentSize ≠ after.segmentSize

theorem unseenChange_of_typeText_ne {d : Dialect} (h : first.typeSignature = second.typeSignature)
    (htext : first.typeText d ≠ second.typeText d) : UnseenChange first second := by
  have htypeOf : first.typeOf = second.typeOf := congrArg TypeSignature.typeOf h
  refine ⟨h, ?_⟩
  unfold typeText at htext
  rw [htypeOf] at htext
  cases hcase : second.typeOf with
  | none =>
    rw [hcase] at htext
    exact .inr ⟨rfl, segmentSize_ne_of_namedTypeText_ne h htext⟩
  | some source =>
    cases source with
    | domain =>
      refine .inl ⟨rfl, fun hdomain => ?_⟩
      rw [hcase] at htext
      exact htext (by simp only [domainText, hdomain])
    | column reference =>
      rw [hcase] at htext
      contradiction

/-- The text of a type depends on its signature, on the domain and on the size of a segment. -/
theorem typeText_congr {d : Dialect} (h : first.typeSignature = second.typeSignature)
    (hdomain : first.domain = second.domain) (hsegment : first.segmentSize = second.segmentSize) :
    first.typeText d = second.typeText d := by
  by_contra htext
  obtain ⟨-, ⟨-, hne⟩ | ⟨-, -, hne⟩⟩ := unseenChange_of_typeText_ne h htext
  · exact hne hdomain
  · exact hne hsegment

end Column

end SchemaScript
