import SchemaScript.Proofs.Dictionary
import SchemaScript.Proofs.Json.Scalars

/-! A value without fractions is read back from its text with the entries of its objects put in key
order. The induction is on the value, with the text behind it left open: it has to end the value, as
a comma, a closing bracket or the end of the text does. -/

namespace SchemaScript.Json

/-! ### Values and their texts -/

mutual

/-- The value as it is read back: entries in key order, and the last one of each key alone. -/
def ordered : Json → Json
  | array items => array (orderedItems items)
  | object entries => ofEntries (orderedEntries entries)
  | scalar => scalar

def orderedItems : List Json → List Json
  | [] => []
  | item :: rest => ordered item :: orderedItems rest

def orderedEntries : List (String × Json) → List (String × Json)
  | [] => []
  | (key, value) :: rest => (key, ordered value) :: orderedEntries rest

end

theorem orderedItems_eq_map (items : List Json) : orderedItems items = items.map ordered := by
  induction items with
  | nil => simp [orderedItems]
  | cons item rest ih => simp [orderedItems, ih]

theorem orderedEntries_eq_map (entries : List (String × Json)) :
    orderedEntries entries = entries.map fun entry => (entry.1, ordered entry.2) := by
  induction entries with
  | nil => simp [orderedEntries]
  | cons entry rest ih => simp [orderedEntries, ih]

/-- No fractions, integers of 64 bits, and at most `depth` containers one inside the other. -/
inductive Plain : Nat → Json → Prop
  | null {depth : Nat} : Plain depth null
  | bool {depth : Nat} (value : Bool) : Plain depth (bool value)
  | int {depth : Nat} {value : Int} (h : FitsWord value) : Plain depth (int value)
  | string {depth : Nat} (value : String) : Plain depth (string value)
  | array {depth : Nat} {items : List Json} (h : ∀ item ∈ items, Plain depth item) :
    Plain (depth + 1) (array items)
  | object {depth : Nat} {entries : List (String × Json)}
    (h : ∀ entry ∈ entries, Plain depth entry.2) : Plain (depth + 1) (object entries)

theorem Plain.mono {n m : Nat} {json : Json} (h : Plain n json) (hnm : n ≤ m) : Plain m json := by
  induction h generalizing m with
  | null => exact .null
  | bool value => exact .bool value
  | int h => exact .int h
  | string value => exact .string value
  | array _ ih =>
    obtain ⟨k, rfl⟩ := Nat.exists_eq_add_of_lt hnm
    exact .array fun item hi => ih item hi (by omega)
  | object _ ih =>
    obtain ⟨k, rfl⟩ := Nat.exists_eq_add_of_lt hnm
    exact .object fun entry he => ih entry he (by omega)

/-- An entry as it stands in an object. -/
def entryText (entry : String × Json) : List Char :=
  (writeString entry.1).toList ++ ':' :: (write entry.2).toList

theorem toList_concat_commas (parts : List String) :
    (Text.concat (parts.map ("," ++ ·))).toList = parts.flatMap fun part => ',' :: part.toList := by
  induction parts with
  | nil => rfl
  | cons part rest ih => simp [ih]

theorem writeItems_eq_map (items : List Json) : writeItems items = items.map write := by
  induction items with
  | nil => simp [writeItems]
  | cons item rest ih => simp [writeItems, ih]

theorem writeEntries_eq_map (entries : List (String × Json)) :
    writeEntries entries =
      entries.map fun entry => writeString entry.1 ++ ":" ++ write entry.2 := by
  induction entries with
  | nil => simp [writeEntries]
  | cons entry rest ih => simp [writeEntries, ih]

theorem toList_write_array_cons (item : Json) (items : List Json) :
    (write (array (item :: items))).toList =
      '[' :: ((write item).toList ++
        ((items.flatMap fun item => ',' :: (write item).toList) ++ [']'])) := by
  simp only [write, writeItems_eq_map, List.map_cons, Text.separatedBy_cons, String.toList_append,
    toList_concat_commas, List.flatMap_map]
  simp

theorem toList_write_object_cons (entry : String × Json) (entries : List (String × Json)) :
    (write (object (entry :: entries))).toList =
      '\x7b' :: (entryText entry ++
        ((entries.flatMap fun entry => ',' :: entryText entry) ++ ['\x7d'])) := by
  simp only [write, writeEntries_eq_map, List.map_cons, Text.separatedBy_cons, String.toList_append,
    toList_concat_commas, List.flatMap_map]
  simp [entryText]

/-- How a text begins that is neither blank nor the end of a container. -/
def StartsValue (text : List Char) : Prop :=
  ∃ c rest, text = c :: rest ∧ isSpace c = false ∧ c ≠ ']' ∧ c ≠ '\x7d'

theorem isSpace_of_isDigit {c : Char} (hc : c.isDigit = true) : isSpace c = false := by
  have hne : c ≠ ' ' ∧ c ≠ '\t' ∧ c ≠ '\n' ∧ c ≠ '\r' := by
    refine ⟨?_, ?_, ?_, ?_⟩ <;> (rintro rfl; cases hc)
  simp [isSpace, hne]

/-- An integer begins with a minus sign or a digit. -/
theorem toString_int_cons (value : Int) :
    ∃ c rest, (toString value).toList = c :: rest ∧ (c = '-' ∨ c.isDigit = true) := by
  rw [toString_int]
  by_cases hneg : value < 0
  · exact ⟨'-', _, by rw [if_pos hneg]; rfl, .inl rfl⟩
  · cases hd : Nat.toDigits 10 value.natAbs with
    | nil => exact absurd hd Nat.toDigits_ne_nil
    | cons d ds =>
      refine ⟨d, ds, by rw [if_neg hneg]; rfl, .inr ?_⟩
      exact Nat.isDigit_of_mem_toDigits (b := 10) (n := value.natAbs) (by omega) (by omega)
        (by simp [hd])

theorem startsValue_write {depth : Nat} {json : Json} (h : Plain depth json) :
    StartsValue (write json).toList := by
  cases h with
  | null => exact ⟨'n', _, rfl, rfl, by decide, by decide⟩
  | bool value =>
    cases value
    · exact ⟨'f', _, rfl, rfl, by decide, by decide⟩
    · exact ⟨'t', _, rfl, rfl, by decide, by decide⟩
  | @int _ value _ =>
    obtain ⟨c, rest, htext, hc⟩ := toString_int_cons value
    refine ⟨c, rest, by rw [write, htext], ?_⟩
    rcases hc with rfl | hc
    · exact ⟨rfl, by decide, by decide⟩
    · refine ⟨isSpace_of_isDigit hc, ?_, ?_⟩ <;> (rintro rfl; cases hc)
  | string value =>
    exact ⟨'"', _, by simp only [write, writeString, String.toList_ofList]; rfl, rfl, by decide,
      by decide⟩
  | array _ =>
    exact ⟨'[', _, by simp only [write, String.toList_append]; rfl, rfl, by decide, by decide⟩
  | object _ =>
    exact ⟨'\x7b', _, by simp only [write, String.toList_append]; rfl, rfl, by decide, by decide⟩

theorem startsValue_entryText (entry : String × Json) : StartsValue (entryText entry) :=
  ⟨'"', _, by simp only [entryText, writeString, String.toList_ofList]; rfl, rfl, by decide,
    by decide⟩

theorem StartsValue.skipSpace_append {text : List Char} (h : StartsValue text) (rest : List Char) :
    skipSpace (text ++ rest) = text ++ rest := by
  obtain ⟨c, tail, rfl, hc, -, -⟩ := h
  simp [skipSpace, hc]

/-! ### Containers -/

/-- The reader of items takes the text of a value for that value. -/
def ReadsBack (item : Step Json) (value : Json) : Prop :=
  StartsValue (write value).toList ∧
    ∀ rest, Ends rest → item ((write value).toList ++ rest) = .ok (ordered value, rest)

theorem ends_flatMap_commas {α : Type} (text : α → List Char) (parts : List α) (c : Char)
    (hc : c = ']' ∨ c = '\x7d') (rest : List Char) :
    Ends ((parts.flatMap fun part => ',' :: text part) ++ c :: rest) := by
  cases parts with
  | nil => exact ends_cons _ (.inr hc)
  | cons part parts => exact ends_cons _ (.inl rfl)

theorem readItems_comma (item : Step Json) (x : Char) (fuel : List Char) {text : List Char}
    (h : StartsValue text) (rest : List Char) :
    readItems item (x :: fuel) (',' :: (text ++ rest)) = (do
      let (value, rest) ← item (text ++ rest)
      let (values, rest) ← readItems item fuel rest
      .ok (value :: values, rest)) := by
  have hcomma : ∀ rest, skipSpace (',' :: rest) = ',' :: rest := fun _ => rfl
  rw [readItems, hcomma]
  simp only [h.skipSpace_append]
  obtain ⟨c, tail, rfl, -, hc, -⟩ := h
  split
  · simp_all
  · simp_all
  · rfl

theorem readItems_write (item : Step Json) (items : List Json)
    (h : ∀ value ∈ items, ReadsBack item value) (fuel : List Char)
    (hf : items.length < fuel.length) (rest : List Char) :
    readItems item fuel ((items.flatMap fun value => ',' :: (write value).toList) ++ ']' :: rest) =
      .ok (items.map ordered, rest) := by
  induction items generalizing fuel with
  | nil =>
    obtain ⟨x, fuel, rfl⟩ := List.exists_cons_of_length_pos hf
    rfl
  | cons value items ih =>
    obtain ⟨x, fuel, rfl⟩ := List.exists_cons_of_length_pos (Nat.lt_of_le_of_lt (Nat.zero_le _) hf)
    obtain ⟨hstart, hread⟩ := h value (by simp)
    have hends := ends_flatMap_commas (fun value => (write value).toList) items ']' (.inl rfl) rest
    have hrest := ih (fun v hv => h v (by simp [hv])) fuel (by simpa using hf)
    simp only [List.flatMap_cons, List.cons_append, List.append_assoc]
    rw [readItems_comma item x fuel hstart, hread _ hends]
    simp only [bind, Except.bind, hrest, List.map_cons]

theorem readArray_cons (item : Step Json) {text : List Char} (h : StartsValue text)
    (rest : List Char) :
    readArray item (text ++ rest) = (do
      let (value, rest) ← item (text ++ rest)
      let (values, rest) ← readItems item rest rest
      .ok (array (value :: values), rest)) := by
  rw [readArray, h.skipSpace_append]
  obtain ⟨c, tail, rfl, -, hc, -⟩ := h
  split
  · simp_all
  · simp_all
  · rfl

/-- Each part brings a comma, so that the text is fuel enough to read all of them. -/
theorem length_lt_flatMap_commas {α : Type} (text : α → List Char) (parts : List α) (c : Char)
    (rest : List Char) :
    parts.length < ((parts.flatMap fun part => ',' :: text part) ++ c :: rest).length := by
  induction parts with
  | nil => simp
  | cons part parts ih =>
    simp only [List.flatMap_cons, List.length_append, List.length_cons] at ih ⊢
    omega

theorem readArray_write (item : Step Json) (items : List Json)
    (h : ∀ value ∈ items, ReadsBack item value) (rest : List Char) :
    readValueWith (some item) ((write (array items)).toList ++ rest) =
      .ok (ordered (array items), rest) := by
  cases items with
  | nil => rfl
  | cons value items =>
    obtain ⟨hstart, hread⟩ := h value (by simp)
    have hends := ends_flatMap_commas (fun value => (write value).toList) items ']' (.inl rfl) rest
    have hrest := readItems_write item items (fun v hv => h v (by simp [hv])) _
      (length_lt_flatMap_commas (fun value => (write value).toList) items ']' rest) rest
    have hopen : ∀ rest, readValueWith (some item) ('[' :: rest) = readArray item rest :=
      fun _ => rfl
    rw [toList_write_array_cons]
    simp only [List.cons_append, List.append_assoc, List.nil_append, hopen]
    rw [readArray_cons item hstart, hread _ hends]
    simp only [bind, Except.bind, hrest, ordered, orderedItems, orderedItems_eq_map]

theorem readEntry_entryText (item : Step Json) (entry : String × Json)
    (h : ReadsBack item entry.2) {rest : List Char} (hr : Ends rest) :
    readEntry item (entryText entry ++ rest) = .ok ((entry.1, ordered entry.2), rest) := by
  have hcolon : ∀ rest, skipSpace (':' :: rest) = ':' :: rest := fun _ => rfl
  simp only [entryText, List.append_assoc, List.cons_append]
  rw [toList_writeString]
  simp only [readEntry, readString_writeString, hcolon, bind, Except.bind, h.2 rest hr]

theorem readEntries_comma (item : Step Json) (x : Char) (fuel : List Char) {text : List Char}
    (h : StartsValue text) (rest : List Char) :
    readEntries item (x :: fuel) (',' :: (text ++ rest)) = (do
      let (entry, rest) ← readEntry item (text ++ rest)
      let (entries, rest) ← readEntries item fuel rest
      .ok (entry :: entries, rest)) := by
  have hcomma : ∀ rest, skipSpace (',' :: rest) = ',' :: rest := fun _ => rfl
  rw [readEntries, hcomma]
  simp only [h.skipSpace_append]
  obtain ⟨c, tail, rfl, -, -, hc⟩ := h
  split
  · simp_all
  · simp_all
  · rfl

theorem readEntries_write (item : Step Json) (entries : List (String × Json))
    (h : ∀ entry ∈ entries, ReadsBack item entry.2) (fuel : List Char)
    (hf : entries.length < fuel.length) (rest : List Char) :
    readEntries item fuel ((entries.flatMap fun entry => ',' :: entryText entry) ++
      '\x7d' :: rest) = .ok (entries.map fun entry => (entry.1, ordered entry.2), rest) := by
  induction entries generalizing fuel with
  | nil =>
    obtain ⟨x, fuel, rfl⟩ := List.exists_cons_of_length_pos hf
    rfl
  | cons entry entries ih =>
    obtain ⟨x, fuel, rfl⟩ := List.exists_cons_of_length_pos (Nat.lt_of_le_of_lt (Nat.zero_le _) hf)
    have hends := ends_flatMap_commas entryText entries '\x7d' (.inr rfl) rest
    have hrest := ih (fun e he => h e (by simp [he])) fuel (by simpa using hf)
    simp only [List.flatMap_cons, List.cons_append, List.append_assoc]
    rw [readEntries_comma item x fuel (startsValue_entryText entry),
      readEntry_entryText item entry (h entry (by simp)) hends]
    simp only [bind, Except.bind, hrest, List.map_cons]

theorem readObject_cons (item : Step Json) {text : List Char} (h : StartsValue text)
    (rest : List Char) :
    readObject item (text ++ rest) = (do
      let (entry, rest) ← readEntry item (text ++ rest)
      let (entries, rest) ← readEntries item rest rest
      .ok (ofEntries (entry :: entries), rest)) := by
  rw [readObject, h.skipSpace_append]
  obtain ⟨c, tail, rfl, -, -, hc⟩ := h
  split
  · simp_all
  · simp_all
  · rfl

theorem readObject_write (item : Step Json) (entries : List (String × Json))
    (h : ∀ entry ∈ entries, ReadsBack item entry.2) (rest : List Char) :
    readValueWith (some item) ((write (object entries)).toList ++ rest) =
      .ok (ordered (object entries), rest) := by
  cases entries with
  | nil => rfl
  | cons entry entries =>
    have hends := ends_flatMap_commas entryText entries '\x7d' (.inr rfl) rest
    have hrest := readEntries_write item entries (fun e he => h e (by simp [he])) _
      (length_lt_flatMap_commas entryText entries '\x7d' rest) rest
    have hopen : ∀ rest, readValueWith (some item) ('\x7b' :: rest) = readObject item rest :=
      fun _ => rfl
    rw [toList_write_object_cons]
    simp only [List.cons_append, List.append_assoc, List.nil_append, hopen]
    rw [readObject_cons item (startsValue_entryText entry),
      readEntry_entryText item entry (h entry (by simp)) hends]
    simp only [bind, Except.bind, hrest, ordered, orderedEntries_eq_map, List.map_cons]

/-! ### Values -/

theorem readValueWith_number (item : Option (Step Json)) {c : Char} (rest : List Char)
    (hc : c = '-' ∨ c.isDigit = true) :
    readValueWith item (c :: rest) = readNumber (c :: rest) := by
  have hspace : isSpace c = false := by
    rcases hc with rfl | hc
    · rfl
    · exact isSpace_of_isDigit hc
  have hskip : skipSpace (c :: rest) = c :: rest := by simp [skipSpace, hspace]
  have hother : ∀ d, (d = '-' ∨ d.isDigit = true) → d ≠ 'n' ∧ d ≠ 't' ∧ d ≠ 'f' ∧ d ≠ '"' ∧
      d ≠ '[' ∧ d ≠ '\x7b' := by
    intro d hd
    refine ⟨?_, ?_, ?_, ?_, ?_, ?_⟩ <;> (rintro rfl; revert hd; decide)
  rw [readValueWith, hskip]
  split
  case h_8 heq =>
    obtain ⟨rfl, rfl⟩ := List.cons.inj heq
    rw [if_pos (by simpa using hc)]
  all_goals simp_all

theorem readValueWith_string (item : Option (Step Json)) {text : String} {input rest : List Char}
    (h : readString input = .ok (text, rest)) :
    readValueWith item ('"' :: input) = .ok (string text, rest) := by
  show bind (readString input) _ = _
  rw [h]
  rfl

theorem readValueWith_scalar (item : Option (Step Json)) {json : Json} (h : Plain 0 json)
    {rest : List Char} (hr : Ends rest) :
    readValueWith item ((write json).toList ++ rest) = .ok (ordered json, rest) := by
  cases h with
  | null => rfl
  | bool value => cases value <;> rfl
  | @int _ value hv =>
    have hread := readNumber_toString hv hr
    obtain ⟨c, tail, htext, hc⟩ := toString_int_cons value
    rw [write, htext, List.cons_append, readValueWith_number item _ hc]
    rw [htext, List.cons_append] at hread
    exact hread
  | string value =>
    rw [write, toList_writeString]
    exact readValueWith_string item (readString_writeString value rest)

/-- A value is read back from its text, whatever follows that text. -/
theorem readValue_write {depth : Nat} {json : Json} (h : Plain depth json) {rest : List Char}
    (hr : Ends rest) :
    readValue depth ((write json).toList ++ rest) = .ok (ordered json, rest) := by
  induction h generalizing rest with
  | @null depth => cases depth <;> exact readValueWith_scalar _ .null hr
  | @bool depth value => cases depth <;> exact readValueWith_scalar _ (.bool value) hr
  | @int depth value hv => cases depth <;> exact readValueWith_scalar _ (.int hv) hr
  | @string depth value => cases depth <;> exact readValueWith_scalar _ (.string value) hr
  | @array depth items h ih =>
    exact readArray_write _ items
      (fun value hv => ⟨startsValue_write (h value hv), fun rest hr => ih value hv hr⟩) rest
  | @object depth entries h ih =>
    exact readObject_write _ entries
      (fun entry he => ⟨startsValue_write (h entry he), fun rest hr => ih entry he hr⟩) rest

/-- A text is read as the value that it was written for. -/
theorem parseWithin_write {depth : Nat} {json : Json} (h : Plain depth json) :
    parseWithin depth (write json) = .ok (ordered json) := by
  have hread := readValue_write h ends_nil
  rw [List.append_nil] at hread
  simp only [parseWithin, hread]
  rfl

end SchemaScript.Json
