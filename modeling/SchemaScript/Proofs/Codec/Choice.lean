import SchemaScript.Proofs.Codec.Lawful

/-! Tagged choices keep the law of their records. A value is written by the first case that takes
it, and the tag leads the reader to that case, as no two cases have the same tag. -/

namespace SchemaScript

variable {α ρ : Type}

/-- The fields that a case writes lead back to the value, and none of them hides the tag. -/
structure Variant.Lawful (variant : Variant α) (key : String) (depth : Nat) : Prop where
  plain : ∀ x fields, variant.write x = some fields → ∀ field ∈ fields, field.2.Plain depth
  nodup : ∀ x fields, variant.write x = some fields → (key :: fields.map (·.1)).Nodup
  read : ∀ x fields entries, variant.write x = some fields → Found fields entries →
    variant.readObject entries = .ok x

namespace Variant

theorem ofRecord_lawful {record : Record ρ ρ} {keys : List String} {key : String} {depth : Nat}
    (h : record.Lawful id keys depth) (hn : (key :: keys).Nodup) (tag title : String) {wrap : ρ → α}
    {unwrap? : α → Option ρ} (hw : ∀ x y, unwrap? x = some y → wrap y = x) :
    (ofRecord tag title record wrap unwrap?).Lawful key depth where
  plain x fields hf := by
    obtain ⟨y, -, rfl⟩ := Option.map_eq_some_iff.1 hf
    exact h.plain y
  nodup x fields hf := by
    obtain ⟨y, -, rfl⟩ := Option.map_eq_some_iff.1 hf
    rwa [h.map_fst_write]
  read x fields entries hf hfound := by
    obtain ⟨y, hy, rfl⟩ := Option.map_eq_some_iff.1 hf
    have hread := h.read .tagged y entries hfound
    simp only [ofRecord, Record.readObject, hread]
    exact congrArg Except.ok (hw x y hy)

theorem ofValue_lawful [DecidableEq α] (key tag : String) (value : α) (depth : Nat) :
    (ofValue tag value).Lawful key depth where
  plain x fields hf := by
    simp only [ofValue] at hf
    split at hf
    · cases hf; simp
    · cases hf
  nodup x fields hf := by
    simp only [ofValue] at hf
    split at hf
    · cases hf; simp
    · cases hf
  read x fields entries hf _ := by
    simp only [ofValue] at hf
    split at hf
    next hx => rw [hx]; rfl
    next => cases hf

end Variant

namespace Tagged

/-- The value is written under the tag of a case that takes it. -/
theorem write_eq {tagged : Tagged α} {x : α}
    (hx : ∃ variant ∈ tagged.variants, (variant.write x).isSome) :
    ∃ variant ∈ tagged.variants, ∃ fields, variant.write x = some fields ∧
      tagged.write x = .object ((tagged.key, .string variant.tag) :: fields) := by
  cases hfirst : tagged.variants.findSome? fun variant =>
      (variant.write x).map (variant.tag, ·) with
  | none =>
    obtain ⟨variant, hv, hsome⟩ := hx
    have hnone := List.findSome?_eq_none_iff.1 hfirst variant hv
    rw [Option.map_eq_none_iff] at hnone
    simp [hnone] at hsome
  | some found =>
    obtain ⟨variant, hv, hmap⟩ := List.exists_of_findSome?_eq_some hfirst
    obtain ⟨fields, hfields, rfl⟩ := Option.map_eq_some_iff.1 hmap
    exact ⟨variant, hv, fields, hfields, by simp only [write, hfirst]⟩

theorem codec_lawful {tagged : Tagged α} {depth : Nat}
    (htags : (tagged.variants.map (·.tag)).Nodup)
    (hv : ∀ variant ∈ tagged.variants, variant.Lawful tagged.key depth)
    (hx : ∀ x, ∃ variant ∈ tagged.variants, (variant.write x).isSome) :
    tagged.codec.Lawful (depth + 1) where
  plain x := by
    obtain ⟨variant, hmem, fields, hfields, hwrite⟩ := write_eq (hx x)
    show (tagged.write x).Plain _
    rw [hwrite]
    refine .object fun field hf => ?_
    rcases List.mem_cons.1 hf with rfl | hf
    · exact .string _
    · exact (hv variant hmem).plain x fields hfields field hf
  read_write layer x := by
    obtain ⟨variant, hmem, fields, hfields, hwrite⟩ := write_eq (hx x)
    have hnodup := (hv variant hmem).nodup x fields hfields
    have hfound := @Record.found_entriesOf ((tagged.key, .string variant.tag) :: fields)
      (by simpa using hnodup)
    have htag := hfound (tagged.key, .string variant.tag) (by simp)
    -- The fields are found beside the tag, and still when the tag is taken out.
    have hrest : Found fields ((entriesOf (Json.orderedEntries
        ((tagged.key, .string variant.tag) :: fields))).filter (·.1 ≠ tagged.key)) := by
      intro field hf
      have hne : field.1 ≠ tagged.key := by
        intro heq
        exact (List.nodup_cons.1 hnodup).1 (heq ▸ List.mem_map_of_mem hf)
      rw [lookup_filter_ne hne]
      exact hfound field (by simp [hf])
    have hread := (hv variant hmem).read x fields _ hfields hrest
    have hname := Codec.readName_name htags hmem
    show tagged.read layer (tagged.write x).ordered = .ok x
    rw [hwrite]
    show tagged.read layer (.object (entriesOf (Json.orderedEntries _))) = .ok x
    simp only [read, htag, Json.ordered, readTag, hname, bind, Except.bind]
    exact hread

end Tagged

end SchemaScript
