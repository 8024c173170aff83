import SchemaScript.Proofs.Dictionary
import SchemaScript.Proofs.User.Unchanged

/-! Bringing tags up to date. The edits drop every tag that is gone and then set every tag that is
there, each tag in one edit only. What they make of the old tags, one after another, are the new
tags; there are no edits exactly when nothing has changed. -/

namespace SchemaScript.User

variable {before after : Dictionary String}

/-! ### Runs of edits -/

namespace TagEdit

def key : TagEdit → String
  | drop key => key
  | set key _ => key

/-- What the edit leaves under its key. -/
def value? : TagEdit → Option String
  | drop _ => none
  | set _ value => some value

/-- An edit changes what its own key holds, and nothing else. -/
theorem get?_apply (tags : Dictionary String) (edit : TagEdit) (k : String) :
    (edit.apply tags).get? k = if k = edit.key then edit.value? else tags.get? k := by
  cases edit with
  | drop key => exact tags.get?_erase key k
  | set key value => exact tags.get?_insert key k value

theorem get?_foldl_apply_of_notMem {edits : List TagEdit} {k : String}
    (h : k ∉ edits.map key) (tags : Dictionary String) :
    (edits.foldl apply tags).get? k = tags.get? k := by
  induction edits generalizing tags with
  | nil => rfl
  | cons edit rest ih =>
    rw [List.map_cons, List.mem_cons, not_or] at h
    rw [List.foldl_cons, ih h.2, get?_apply, if_neg h.1]

/-- Where no key is edited twice, every edit can be seen in what the run leaves. -/
theorem get?_foldl_apply_of_mem {edits : List TagEdit} (hkeys : (edits.map key).Nodup)
    {edit : TagEdit} (h : edit ∈ edits) (tags : Dictionary String) :
    (edits.foldl apply tags).get? edit.key = edit.value? := by
  induction edits generalizing tags with
  | nil => simp at h
  | cons first rest ih =>
    rw [List.map_cons, List.nodup_cons] at hkeys
    rw [List.foldl_cons]
    rcases List.mem_cons.1 h with rfl | hrest
    · rw [get?_foldl_apply_of_notMem hkeys.1, get?_apply, if_pos rfl]
    · exact ih hkeys.2 hrest _

end TagEdit

/-! ### The edits between two versions -/

/-- The keys of the tags that are gone. -/
def goneKeys (before after : Dictionary String) : List String :=
  before.keys.filter (!after.keys.contains ·)

theorem mem_goneKeys_iff {key : String} :
    key ∈ goneKeys before after ↔ key ∈ before.keys ∧ key ∉ after.keys := by
  simp [goneKeys]

theorem map_key_tagEdits (before after : Dictionary String) :
    (tagEdits before after).map TagEdit.key = goneKeys before after ++ after.keys := by
  simp only [tagEdits, List.map_append, List.map_map]
  congr 1
  exact List.map_id _

theorem nodup_keys_tagEdits (before after : Dictionary String) :
    ((tagEdits before after).map TagEdit.key).Nodup := by
  rw [map_key_tagEdits, List.nodup_append']
  refine ⟨before.nodup_keys.filter _, after.nodup_keys, fun key hgone hafter => ?_⟩
  exact (mem_goneKeys_iff.1 hgone).2 hafter

theorem drop_mem_tagEdits {key : String} (h : key ∈ goneKeys before after) :
    TagEdit.drop key ∈ tagEdits before after :=
  List.mem_append_left _ (List.mem_map_of_mem h)

theorem set_mem_tagEdits {tag : String × String} (h : tag ∈ after.entries) :
    TagEdit.set tag.1 tag.2 ∈ tagEdits before after :=
  List.mem_append_right _ (List.mem_map_of_mem (f := fun tag => TagEdit.set tag.1 tag.2) h)

/-- The edits turn the old tags into the new ones. -/
theorem foldl_tagEdits (before after : Dictionary String) :
    (tagEdits before after).foldl TagEdit.apply before = after := by
  have hkeys := nodup_keys_tagEdits before after
  refine Dictionary.ext_get? fun key => ?_
  by_cases hafter : key ∈ after.keys
  · -- The tag is there, so it is set.
    obtain ⟨tag, htag, rfl⟩ := List.mem_map.1 hafter
    have hset := TagEdit.get?_foldl_apply_of_mem hkeys (set_mem_tagEdits htag) before
    exact hset.trans (Dictionary.get?_eq_some_of_mem htag).symm
  · rw [Dictionary.get?_eq_none_iff.2 hafter]
    by_cases hbefore : key ∈ before.keys
    · -- The tag is gone, so it is dropped.
      have hgone := drop_mem_tagEdits (mem_goneKeys_iff.2 ⟨hbefore, hafter⟩)
      exact TagEdit.get?_foldl_apply_of_mem hkeys hgone before
    · -- There never was such a tag, and no edit makes one.
      have hother : key ∉ (tagEdits before after).map TagEdit.key := by
        rw [map_key_tagEdits, List.mem_append, mem_goneKeys_iff]
        tauto
      rw [TagEdit.get?_foldl_apply_of_notMem hother]
      exact Dictionary.get?_eq_none_iff.2 hbefore

theorem tagEdits_ne_nil (h : before ≠ after) : tagEdits before after ≠ [] := by
  intro hnil
  have hrun := foldl_tagEdits before after
  rw [hnil] at hrun
  exact h hrun

/-- There is no clause for tags that have not changed. For others the clause lists, with no key
twice, a drop for each tag that is gone and then an assignment for each tag that is there, in the
order of the keys; and one after another these edits turn the old tags into the new ones. -/
theorem tagClause?_bringsUpToDate (before after : Dictionary String) :
    (tagClause? before after = none ↔ before = after) ∧
    (before ≠ after → ∃ (gone : List String) (edits : List TagEdit),
      tagClause? before after =
        some ("TAGS (" ++ Text.separatedBy ", " (edits.map TagEdit.text) ++ ")") ∧
      edits ≠ [] ∧
      edits = gone.map TagEdit.drop ++ after.entries.map (fun tag => TagEdit.set tag.1 tag.2) ∧
      (∀ key, key ∈ gone ↔ key ∈ before.keys ∧ key ∉ after.keys) ∧
      after.keys.Pairwise (· < ·) ∧
      (edits.map TagEdit.key).Nodup ∧
      edits.foldl TagEdit.apply before = after) := by
  refine ⟨tagClause?_eq_none_iff before after, fun hne => ?_⟩
  have hclause : tagClause? before after =
      some (tagList ((tagEdits before after).map TagEdit.text)) := if_neg hne
  exact ⟨goneKeys before after, tagEdits before after, hclause, tagEdits_ne_nil hne, rfl,
    fun _ => mem_goneKeys_iff, after.keys_sorted, nodup_keys_tagEdits before after,
    foldl_tagEdits before after⟩

/-- One tag has another value, one is gone and one is new. -/
theorem tagClause?_bringsUpToDate_moved :
    let before : Dictionary String := .ofList [("FLOOR", "2"), ("DEPT", "sales")]
    let after : Dictionary String := .ofList [("REGION", "north"), ("DEPT", "lab")]
    before ≠ after ∧ tagClause? before after =
        some "TAGS (DROP FLOOR, DEPT = 'lab', REGION = 'north')" ∧
      ∃ edits : List TagEdit, edits ≠ [] ∧ edits.foldl TagEdit.apply before = after := by
  intro before after
  have hne : before ≠ after := by decide +kernel
  obtain ⟨-, hedits⟩ := tagClause?_bringsUpToDate before after
  obtain ⟨gone, edits, -, hsome, -, -, -, -, hrun⟩ := hedits hne
  exact ⟨hne, by decide +kernel, edits, hsome, hrun⟩

end SchemaScript.User
