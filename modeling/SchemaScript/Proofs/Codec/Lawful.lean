import SchemaScript.Codec.Choice
import SchemaScript.Proofs.Calendar.RoundTrip
import SchemaScript.Proofs.Json.RoundTrip

/-! Codecs whose values are read back from what is written for them. Reading puts the entries of
objects in key order, so the law is about the written value in that order. Each way to build a codec
keeps the law, and says how deep the containers go. -/

namespace SchemaScript

variable {α β ρ : Type}

structure Codec.Lawful (codec : Codec α) (depth : Nat) : Prop where
  plain : ∀ x, (codec.write x).Plain depth
  read_write : ∀ layer x, codec.read layer (codec.write x).ordered = .ok x

namespace Codec

theorem Lawful.mono {codec : Codec α} {n m : Nat} (h : codec.Lawful n) (hnm : n ≤ m) :
    codec.Lawful m := ⟨fun x => (h.plain x).mono hnm, h.read_write⟩

/-! ### Scalars -/

theorem string_lawful {depth : Nat} : string.Lawful depth :=
  ⟨fun x => .string x, fun _ _ => rfl⟩

theorem bool_lawful {depth : Nat} : bool.Lawful depth :=
  ⟨fun x => .bool x, fun _ _ => rfl⟩

theorem integer_read {name : String} {least greatest value : Int} (hl : least ≤ value)
    (hg : value ≤ greatest) (layer : Layer) :
    (integer name least greatest).read layer (.int value) = .ok value := by
  simp [integer, hl, hg]

theorem int32_lawful {depth : Nat} : int32.Lawful depth where
  plain x := .int (by
    have := x.le_toInt
    have := x.toInt_lt
    simp only [Json.FitsWord]
    omega)
  read_write layer x := by
    have hl : -2147483648 ≤ x.toInt := x.le_toInt
    have hg : x.toInt ≤ 2147483647 := Int.le_of_lt_add_one x.toInt_lt
    show ((integer "i32" _ _).read layer (.int x.toInt)).map Int32.ofInt = .ok x
    rw [integer_read hl hg]
    exact congrArg Except.ok x.ofInt_toInt

theorem int64_lawful {depth : Nat} : int64.Lawful depth where
  plain x := .int (by
    have := x.le_toInt
    have := x.toInt_lt
    simp only [Json.FitsWord]
    omega)
  read_write layer x := by
    have hl : -9223372036854775808 ≤ x.toInt := x.le_toInt
    have hg : x.toInt ≤ 9223372036854775807 := Int.le_of_lt_add_one x.toInt_lt
    show ((integer "i64" _ _).read layer (.int x.toInt)).map Int64.ofInt = .ok x
    rw [integer_read hl hg]
    exact congrArg Except.ok x.ofInt_toInt

theorem timestamp_lawful {depth : Nat} : timestamp.Lawful depth where
  plain _ := .string _
  read_write layer x := by
    simp only [timestamp, Json.ordered, Timestamp.read_write]
    rfl

/-! ### Options, lists and dictionaries -/

theorem ordered_eq_null {json : Json} (h : json.ordered = .null) : json = .null := by
  cases json <;> simp_all [Json.ordered, Json.ofEntries]

theorem optional_read (item : Codec α) (layer : Layer) {json : Json} (h : json ≠ .null) :
    (optional item).read layer json = (item.read layer json).map some := by
  cases json <;> first | rfl | exact absurd rfl h

/-- An absent value is told from a present one, as no item is written as `null`. -/
theorem Lawful.optional {item : Codec α} {depth : Nat} (h : item.Lawful depth)
    (hp : ∀ x, item.write x ≠ .null) : (Codec.optional item).Lawful depth where
  plain
    | none => .null
    | some x => h.plain x
  read_write layer
    | none => rfl
    | some x => by
      have hread := h.read_write layer x
      have hnull : (item.write x).ordered ≠ .null := fun hn => hp x (ordered_eq_null hn)
      show (Codec.optional item).read layer (item.write x).ordered = .ok (some x)
      rw [optional_read item layer hnull, hread]
      rfl

theorem mapM_read_write {item : Codec α} {depth : Nat} (h : item.Lawful depth) (layer : Layer)
    (values : List α) :
    ((values.map item.write).map Json.ordered).mapM (item.read layer) = .ok values := by
  induction values with
  | nil => rfl
  | cons x rest ih =>
    simp only [List.map_cons, List.mapM_cons, h.read_write, ih]
    rfl

theorem Lawful.list {item : Codec α} {depth : Nat} (h : item.Lawful depth) :
    (Codec.list item).Lawful (depth + 1) where
  plain values := .array fun json hj => by
    obtain ⟨x, -, rfl⟩ := List.mem_map.1 hj
    exact h.plain x
  read_write layer values := by
    show (Codec.list item).read layer (.array (Json.orderedItems (values.map item.write))) = _
    rw [Json.orderedItems_eq_map]
    exact mapM_read_write h layer values

theorem mapM_entries_read_write {item : Codec α} {depth : Nat} (h : item.Lawful depth)
    (layer : Layer) (entries : List (String × α)) :
    (entries.map fun entry => (entry.1, (item.write entry.2).ordered)).mapM
      (fun entry => (item.read layer entry.2).map (entry.1, ·)) = .ok entries := by
  induction entries with
  | nil => rfl
  | cons entry rest ih =>
    simp only [List.map_cons, List.mapM_cons, h.read_write, ih]
    rfl

theorem Lawful.dictionary {item : Codec α} {depth : Nat} (h : item.Lawful depth) :
    (Codec.dictionary item).Lawful (depth + 1) where
  plain values := .object fun entry he => by
    obtain ⟨e, -, rfl⟩ := List.mem_map.1 he
    exact h.plain e.2
  read_write layer values := by
    have hsorted : SortedByKey (values.entries.map fun entry =>
        (entry.1, (item.write entry.2).ordered)) :=
      List.pairwise_map.2 values.sorted
    have hordered : ((Codec.dictionary item).write values).ordered =
        .object (values.entries.map fun entry => (entry.1, (item.write entry.2).ordered)) := by
      show Json.ofEntries (Json.orderedEntries _) = _
      rw [Json.orderedEntries_eq_map, List.map_map]
      exact congrArg Json.object (entriesOf_of_sortedByKey hsorted)
    rw [hordered]
    show Except.map Dictionary.ofList (List.mapM _ _) = _
    rw [mapM_entries_read_write h]
    obtain ⟨entries, sorted⟩ := values
    simp only [Except.map, Dictionary.ofList, entriesOf_of_sortedByKey sorted]

/-! ### Names -/

theorem named?_eq_some {values : List α} {name : α → String} (hn : (values.map name).Nodup)
    {x : α} (hx : x ∈ values) : named? values name (name x) = some x := by
  induction values with
  | nil => simp at hx
  | cons first rest ih =>
    obtain ⟨hfirst, hrest⟩ := List.nodup_cons.1 hn
    rcases List.mem_cons.1 hx with rfl | hx
    · simp [named?]
    · have hne : name first ≠ name x := fun h => hfirst (h ▸ List.mem_map_of_mem hx)
      have := ih hrest hx
      simpa [named?, hne] using this

theorem readName_name {values : List α} {name : α → String} (hn : (values.map name).Nodup)
    {x : α} (hx : x ∈ values) : readName values name (name x) = .ok x := by
  simp only [readName, named?_eq_some hn hx]

theorem oneOf_lawful {depth : Nat} {values : List α} {name : α → String}
    (hn : (values.map name).Nodup) (hall : ∀ x, x ∈ values) : (oneOf values name).Lawful depth where
  plain _ := .string _
  read_write _ x := readName_name hn (hall x)

end Codec

/-! ### Records -/

/-- The entries hold the given fields, each in key order. -/
def Found (fields entries : List (String × Json)) : Prop :=
  ∀ field ∈ fields, entries.lookup field.1 = some field.2.ordered

/-- The fields of an `x`, under these keys, lead back to `value x`. -/
structure Record.Lawful (record : Record ρ α) (value : ρ → α) (keys : List String) (depth : Nat) :
    Prop where
  map_fst_write : ∀ x, (record.write x).map (·.1) = keys
  plain : ∀ x, ∀ field ∈ record.write x, field.2.Plain depth
  read : ∀ layer x entries, Found (record.write x) entries →
    record.readEntries layer entries = .ok (value x)

namespace Record

theorem Lawful.mono {record : Record ρ α} {value : ρ → α} {keys : List String} {n m : Nat}
    (h : record.Lawful value keys n) (hnm : n ≤ m) : record.Lawful value keys m where
  map_fst_write := h.map_fst_write
  plain x field hf := (h.plain x field hf).mono hnm
  read := h.read

theorem build_lawful {value : α} {depth : Nat} :
    (build value : Record ρ α).Lawful (fun _ => value) [] depth where
  map_fst_write _ := rfl
  plain _ _ h := by simp [build] at h
  read _ _ _ _ := rfl

theorem Lawful.extend {record : Record ρ (α → β)} {value : ρ → α → β} {keys : List String}
    {depth : Nat} {key : String} {get : ρ → α} {codec : Codec α} {absence : Absence α}
    (h : record.Lawful value keys depth) (hc : codec.Lawful depth) :
    (record.extend key get codec absence).Lawful (fun x => value x (get x)) (keys ++ [key])
      depth where
  map_fst_write x := by simp [Record.extend, h.map_fst_write]
  plain x field hf := by
    rcases List.mem_append.1 hf with hf | hf
    · exact h.plain x field hf
    · rw [List.mem_singleton.1 hf]
      exact hc.plain _
  read layer x entries hfound := by
    have hlookup : entries.lookup key = some (codec.write (get x)).ordered :=
      hfound (key, codec.write (get x)) (by simp [Record.extend])
    have hread : record.readEntries layer entries = .ok (value x) :=
      h.read layer x entries fun field hf => hfound field (by simp [Record.extend, hf])
    simp only [Record.extend, hread, readEntry, hlookup, hc.read_write]
    rfl

theorem Lawful.field [Inhabited ρ] {record : Record ρ (α → β)} {value : ρ → α → β}
    {keys : List String} {depth : Nat} {key : String} {get : ρ → α} {codec : Codec α}
    (h : record.Lawful value keys depth) (hc : codec.Lawful depth) :
    (record.field key get codec).Lawful (fun x => value x (get x)) (keys ++ [key]) depth :=
  h.extend hc

theorem Lawful.required {record : Record ρ (α → β)} {value : ρ → α → β} {keys : List String}
    {depth : Nat} {key : String} {get : ρ → α} {codec : Codec α}
    (h : record.Lawful value keys depth) (hc : codec.Lawful depth) :
    (record.required key get codec).Lawful (fun x => value x (get x)) (keys ++ [key]) depth :=
  h.extend hc

/-- What is found among the entries of the object that a record is written as. -/
theorem found_entriesOf {fields : List (String × Json)} (hn : (fields.map (·.1)).Nodup) :
    Found fields (entriesOf (Json.orderedEntries fields)) := by
  intro field hf
  rw [Json.orderedEntries_eq_map]
  have hkeys : ((fields.map fun entry => (entry.1, entry.2.ordered)).map (·.1)).Nodup := by
    simpa [Function.comp_def] using hn
  exact lookup_entriesOf hkeys (List.mem_map_of_mem hf)

theorem Lawful.codec {record : Record ρ ρ} {keys : List String} {depth : Nat}
    (h : record.Lawful id keys depth) (hn : keys.Nodup) (title : String) :
    (record.codec title).Lawful (depth + 1) where
  plain x := .object (h.plain x)
  read_write layer x := by
    have hread := h.read layer x _ (found_entriesOf (by rwa [h.map_fst_write]))
    show (record.readObject layer _) = _
    simp only [readObject, hread]
    rfl

end Record

end SchemaScript
