import SchemaScript.Proofs.Json.ScalarLocality
import Mathlib.Data.List.DropRight

/-! A value is read the same whatever follows that ends it, and a reader that may go deeper reads no
other value. So a text between brackets is read as the array of its value. -/

namespace SchemaScript.Json

variable {more : List Char}

theorem skipSpace_append_of_cons {c : Char} {input rest : List Char}
    (h : skipSpace input = c :: rest) (more : List Char) :
    skipSpace (input ++ more) = c :: (rest ++ more) := by
  unfold skipSpace at h ⊢
  rw [List.dropWhile_append, if_neg (by simp [h]), h, List.cons_append]

/-! ### Containers -/

section

variable {item wider : Step Json}

theorem readItems_of_comma {x c : Char} {fuel input tail first : List Char}
    (hskip : skipSpace input = ',' :: tail) (hfirst : skipSpace tail = c :: first) (hc : c ≠ ']') :
    readItems item (x :: fuel) input = (do
      let (value, rest) ← item (c :: first)
      let (values, rest) ← readItems item fuel rest
      .ok (value :: values, rest)) := by
  rw [readItems, hskip]
  simp only [hfirst]
  split
  next heq => contradiction
  next heq => exact absurd (List.cons.inj heq).1 hc
  next => rfl

theorem readItems_carriesOver (hitem : CarriesOver more item wider) {fuel fuel' : List Char}
    (hf : fuel.length ≤ fuel'.length) :
    CarriesOver more (readItems item fuel) (readItems wider fuel') := by
  induction fuel generalizing fuel' with
  | nil =>
    intro input values rest h
    contradiction
  | cons x fuel ih =>
    obtain ⟨y, fuel', rfl⟩ := List.exists_cons_of_length_pos (Nat.lt_of_lt_of_le (by simp) hf)
    have hnext := ih (Nat.le_of_succ_le_succ hf)
    intro input values rest h
    cases hskip : skipSpace input with
    | nil => simp [readItems, hskip, stopAt] at h
    | cons c tail =>
      have hwider := skipSpace_append_of_cons hskip more
      by_cases hbracket : c = ']'
      · subst hbracket
        rw [readItems, hskip] at h
        rw [readItems, hwider]
        obtain ⟨rfl, rfl⟩ := Prod.mk.inj (Except.ok.inj h)
        rfl
      by_cases hcomma : c = ','
      · subst hcomma
        cases hfirst : skipSpace tail with
        | nil => simp [readItems, hskip, hfirst, stopAt] at h
        | cons d first =>
          by_cases hd : d = ']'
          · subst hd
            simp [readItems, hskip, hfirst, stopAt] at h
          · rw [readItems_of_comma hskip hfirst hd] at h
            rw [readItems_of_comma hwider (skipSpace_append_of_cons hfirst more) hd]
            exact (hitem.bind fun value => hnext.bind fun values => carriesOver_ok _) _ _ _ h
      · simp [readItems, hskip, hbracket, hcomma, stopAt] at h

theorem readAllItems_carriesOver (hitem : CarriesOver more item wider) :
    CarriesOver more (fun input => readItems item input input)
      (fun input => readItems wider input input) := by
  intro input values rest h
  have hlength : input.length ≤ (input ++ more).length := by simp
  exact readItems_carriesOver hitem hlength _ _ _ h

theorem readArray_of_cons {c : Char} {input first : List Char}
    (hfirst : skipSpace input = c :: first) (hc : c ≠ ']') :
    readArray item input = (do
      let (value, rest) ← item (c :: first)
      let (values, rest) ← readItems item rest rest
      .ok (array (value :: values), rest)) := by
  rw [readArray, hfirst]
  split
  next heq => contradiction
  next heq => exact absurd (List.cons.inj heq).1 hc
  next => rfl

theorem readArray_carriesOver (hitem : CarriesOver more item wider) :
    CarriesOver more (readArray item) (readArray wider) := by
  intro input json rest h
  cases hskip : skipSpace input with
  | nil => simp [readArray, hskip, stopAt] at h
  | cons c first =>
    have hwider := skipSpace_append_of_cons hskip more
    by_cases hc : c = ']'
    · subst hc
      rw [readArray, hskip] at h
      rw [readArray, hwider]
      obtain ⟨rfl, rfl⟩ := Prod.mk.inj (Except.ok.inj h)
      rfl
    · rw [readArray_of_cons hskip hc] at h
      rw [readArray_of_cons hwider hc]
      exact (hitem.bind fun value => (readAllItems_carriesOver hitem).bind fun values =>
        carriesOver_ok (array (value :: values))) _ _ _ h

/-- What follows a key. -/
def readColon (item : Step Json) (key : String) : Step (String × Json) := fun input =>
  match skipSpace input with
  | [] => stopAt .openObject []
  | ':' :: rest => do
    let (value, rest) ← item rest
    .ok ((key, value), rest)
  | rest => stopAt .expectedColon rest

theorem readColon_carriesOver (hitem : CarriesOver more item wider) (key : String) :
    CarriesOver more (readColon item key) (readColon wider key) := by
  intro input entry rest h
  unfold readColon at h
  split at h
  next => contradiction
  next tail hcolon =>
    rw [readColon, skipSpace_append_of_cons hcolon]
    exact (hitem.bind fun value => carriesOver_ok _) _ _ _ h
  next => contradiction

theorem readEntry_carriesOver (hitem : CarriesOver more item wider) :
    CarriesOver more (readEntry item) (readEntry wider) := by
  intro input entry rest h
  unfold readEntry at h
  split at h
  next => exact (readString_carriesOver.bind fun key => readColon_carriesOver hitem key) _ _ _ h
  next => contradiction

theorem readEntries_of_comma {x c : Char} {fuel input tail first : List Char}
    (hskip : skipSpace input = ',' :: tail) (hfirst : skipSpace tail = c :: first)
    (hc : c ≠ '\x7d') :
    readEntries item (x :: fuel) input = (do
      let (entry, rest) ← readEntry item (c :: first)
      let (entries, rest) ← readEntries item fuel rest
      .ok (entry :: entries, rest)) := by
  rw [readEntries, hskip]
  simp only [hfirst]
  split
  next heq => contradiction
  next heq => exact absurd (List.cons.inj heq).1 hc
  next => rfl

theorem readEntries_carriesOver (hitem : CarriesOver more item wider) {fuel fuel' : List Char}
    (hf : fuel.length ≤ fuel'.length) :
    CarriesOver more (readEntries item fuel) (readEntries wider fuel') := by
  induction fuel generalizing fuel' with
  | nil =>
    intro input entries rest h
    contradiction
  | cons x fuel ih =>
    obtain ⟨y, fuel', rfl⟩ := List.exists_cons_of_length_pos (Nat.lt_of_lt_of_le (by simp) hf)
    have hnext := ih (Nat.le_of_succ_le_succ hf)
    intro input entries rest h
    cases hskip : skipSpace input with
    | nil => simp [readEntries, hskip, stopAt] at h
    | cons c tail =>
      have hwider := skipSpace_append_of_cons hskip more
      by_cases hbrace : c = '\x7d'
      · subst hbrace
        rw [readEntries, hskip] at h
        rw [readEntries, hwider]
        obtain ⟨rfl, rfl⟩ := Prod.mk.inj (Except.ok.inj h)
        rfl
      by_cases hcomma : c = ','
      · subst hcomma
        cases hfirst : skipSpace tail with
        | nil => simp [readEntries, hskip, hfirst, stopAt] at h
        | cons d first =>
          by_cases hd : d = '\x7d'
          · subst hd
            simp [readEntries, hskip, hfirst, stopAt] at h
          · rw [readEntries_of_comma hskip hfirst hd] at h
            rw [readEntries_of_comma hwider (skipSpace_append_of_cons hfirst more) hd]
            exact ((readEntry_carriesOver hitem).bind fun entry =>
              hnext.bind fun entries => carriesOver_ok _) _ _ _ h
      · simp [readEntries, hskip, hbrace, hcomma, stopAt] at h

theorem readAllEntries_carriesOver (hitem : CarriesOver more item wider) :
    CarriesOver more (fun input => readEntries item input input)
      (fun input => readEntries wider input input) := by
  intro input entries rest h
  have hlength : input.length ≤ (input ++ more).length := by simp
  exact readEntries_carriesOver hitem hlength _ _ _ h

theorem readObject_of_cons {c : Char} {input first : List Char}
    (hfirst : skipSpace input = c :: first) (hc : c ≠ '\x7d') :
    readObject item input = (do
      let (entry, rest) ← readEntry item (c :: first)
      let (entries, rest) ← readEntries item rest rest
      .ok (ofEntries (entry :: entries), rest)) := by
  rw [readObject, hfirst]
  split
  next heq => contradiction
  next heq => exact absurd (List.cons.inj heq).1 hc
  next => rfl

theorem readObject_carriesOver (hitem : CarriesOver more item wider) :
    CarriesOver more (readObject item) (readObject wider) := by
  intro input json rest h
  cases hskip : skipSpace input with
  | nil => simp [readObject, hskip, stopAt] at h
  | cons c first =>
    have hwider := skipSpace_append_of_cons hskip more
    by_cases hc : c = '\x7d'
    · subst hc
      rw [readObject, hskip] at h
      rw [readObject, hwider]
      obtain ⟨rfl, rfl⟩ := Prod.mk.inj (Except.ok.inj h)
      rfl
    · rw [readObject_of_cons hskip hc] at h
      rw [readObject_of_cons hwider hc]
      exact ((readEntry_carriesOver hitem).bind fun entry =>
        (readAllEntries_carriesOver hitem).bind fun entries =>
          carriesOver_ok (ofEntries (entry :: entries))) _ _ _ h

end

/-! ### Values -/

theorem readValueWith_of_number {item : Option (Step Json)} {input rest : List Char} {c : Char}
    (h : skipSpace input = c :: rest) (hc : c = '-' ∨ c.isDigit = true) :
    readValueWith item input = readNumber (c :: rest) := by
  rw [readValueWith, h]
  have hhead : (decide (c = '-') || c.isDigit) = true := by simpa using hc
  split <;> rename_i heq <;> first | (obtain ⟨rfl, rfl⟩ := List.cons.inj heq) | contradiction
  all_goals first | exact absurd hc (by decide) | rw [if_pos hhead]

/-- Containers hold what `item` reads, and `wider` reads the same in the longer text. -/
theorem readValueWith_carriesOver (hm : Ends more) {item wider : Option (Step Json)}
    (hitem : ∀ step ∈ item, ∃ step' ∈ wider, CarriesOver more step step') :
    CarriesOver more (readValueWith item) (readValueWith wider) := by
  intro input value rest h
  cases hskip : skipSpace input with
  | nil => simp [readValueWith, hskip, stopAt] at h
  | cons c tail =>
    have hwider := skipSpace_append_of_cons hskip more
    by_cases hnumber : c = '-' ∨ c.isDigit = true
    · rw [readValueWith_of_number hskip hnumber] at h
      rw [readValueWith_of_number hwider hnumber]
      exact readNumber_carriesOver hm _ _ _ h
    rw [readValueWith, hskip] at h
    rw [readValueWith, hwider]
    split at h <;> rename_i heq <;>
      first | (obtain ⟨rfl, rfl⟩ := List.cons.inj heq) | contradiction
    case h_2 | h_3 | h_4 => exact readWord_carriesOver _ _ _ _ _ h
    case h_5 => exact (readString_carriesOver.bind fun text => carriesOver_ok _) _ _ _ h
    case h_6 =>
      split at h
      next step =>
        obtain ⟨step', hstep', hcarries⟩ := hitem step rfl
        obtain rfl : wider = some step' := hstep'
        exact readArray_carriesOver hcarries _ _ _ h
      next => contradiction
    case h_7 =>
      split at h
      next step =>
        obtain ⟨step', hstep', hcarries⟩ := hitem step rfl
        obtain rfl : wider = some step' := hstep'
        exact readObject_carriesOver hcarries _ _ _ h
      next => contradiction
    case h_8 =>
      rw [if_neg (by simpa using hnumber)] at h
      contradiction

/-- A value is read the same in a longer text, and where more containers are allowed. -/
theorem readValue_carriesOver (hm : Ends more) {depth deeper : Nat} (hd : depth ≤ deeper) :
    CarriesOver more (readValue depth) (readValue deeper) := by
  induction depth generalizing deeper with
  | zero =>
    have hnone : ∀ wider, CarriesOver more (readValueWith none) (readValueWith wider) := by
      intro wider
      exact readValueWith_carriesOver hm (by simp)
    cases deeper with
    | zero => exact hnone _
    | succ deeper => exact hnone _
  | succ depth ih =>
    obtain ⟨deeper, rfl⟩ : ∃ n, deeper = n + 1 := ⟨deeper - 1, by omega⟩
    apply readValueWith_carriesOver hm
    intro step hstep
    obtain rfl : readValue depth = step := by simpa using hstep
    exact ⟨_, rfl, ih (Nat.le_of_succ_le_succ hd)⟩

theorem skipSpace_skipSpace (input : List Char) : skipSpace (skipSpace input) = skipSpace input :=
  List.dropWhile_idempotent _ _

/-- A value has a first character, which is no closing bracket. -/
theorem skipSpace_of_readValueWith {item : Option (Step Json)} {input rest : List Char}
    {value : Json} (h : readValueWith item input = .ok (value, rest)) :
    ∃ c first, skipSpace input = c :: first ∧ c ≠ ']' := by
  cases hskip : skipSpace input with
  | nil => simp [readValueWith, hskip, stopAt] at h
  | cons c first =>
    refine ⟨c, first, rfl, ?_⟩
    rintro rfl
    simp [readValueWith, hskip, stopAt] at h

theorem readValueWith_skipSpace (item : Option (Step Json)) (input : List Char) :
    readValueWith item (skipSpace input) = readValueWith item input := by
  unfold readValueWith
  rw [skipSpace_skipSpace]

/-- `readValue` reads values with some reader for what they contain. -/
theorem exists_readValueWith (depth : Nat) : ∃ item, readValue depth = readValueWith item := by
  cases depth with
  | zero => exact ⟨_, rfl⟩
  | succ depth => exact ⟨_, rfl⟩

/-! ### Texts -/

theorem parseWithin_eq_ok_iff {depth : Nat} {text : String} {value : Json} :
    parseWithin depth text = .ok value ↔
      ∃ rest, readValue depth text.toList = .ok (value, rest) ∧ skipSpace rest = [] := by
  simp only [parseWithin]
  constructor
  · intro h
    split at h
    next => contradiction
    next read rest hread =>
      split at h
      next hskip =>
        cases h
        exact ⟨rest, hread, hskip⟩
      next => contradiction
  · rintro ⟨rest, hread, hskip⟩
    simp only [hread, hskip]

theorem parseWithin_mono {depth deeper : Nat} (hd : depth ≤ deeper) {text : String} {value : Json}
    (h : parseWithin depth text = .ok value) : parseWithin deeper text = .ok value := by
  obtain ⟨rest, hread, hskip⟩ := parseWithin_eq_ok_iff.1 h
  have hdeeper : readValue deeper (text.toList ++ []) = .ok (value, rest ++ []) :=
    readValue_carriesOver ends_nil hd _ _ _ hread
  rw [List.append_nil, List.append_nil] at hdeeper
  exact parseWithin_eq_ok_iff.2 ⟨rest, hdeeper, hskip⟩

theorem readItems_of_closing {item : Step Json} {input rest : List Char}
    (hskip : skipSpace input = ']' :: rest) : readItems item input input = .ok ([], rest) := by
  cases input with
  | nil => contradiction
  | cons c input => simp only [readItems, hskip]

/-- The bracket behind a value closes the array that the bracket before it has opened. -/
theorem readArray_closing {depth : Nat} {input rest : List Char} {value : Json}
    (hread : readValue depth input = .ok (value, rest)) (hskip : skipSpace rest = []) :
    readArray (readValue depth) (input ++ [']']) = .ok (array [value], []) := by
  have hends : Ends [']'] := ends_cons _ (.inr (.inl rfl))
  have hvalue := readValue_carriesOver hends (Nat.le_refl depth) _ _ _ hread
  have hclose : skipSpace (rest ++ [']']) = [']'] := by
    unfold skipSpace at hskip ⊢
    rw [List.dropWhile_append, hskip]
    rfl
  have hitems : readItems (readValue depth) (rest ++ [']']) (rest ++ [']']) = .ok ([], []) :=
    readItems_of_closing hclose
  obtain ⟨item, hitem⟩ := exists_readValueWith depth
  rw [hitem] at hread hvalue
  obtain ⟨c, first, hfirst, hc⟩ := skipSpace_of_readValueWith hread
  have hbehind := skipSpace_append_of_cons hfirst [']']
  rw [← readValueWith_skipSpace, hbehind] at hvalue
  rw [hitem] at hitems ⊢
  rw [readArray_of_cons hbehind hc, hvalue]
  simp only [bind, Except.bind, hitems]

/-- Brackets around a text make an array of its value, of which they are one more container. -/
theorem parseWithin_brackets {depth : Nat} {text : String} {value : Json}
    (h : parseWithin depth text = .ok value) :
    parseWithin (depth + 1) ("[" ++ text ++ "]") = .ok (array [value]) := by
  obtain ⟨rest, hread, hskip⟩ := parseWithin_eq_ok_iff.1 h
  refine parseWithin_eq_ok_iff.2 ⟨[], ?_, rfl⟩
  have htext : ("[" ++ text ++ "]").toList = '[' :: (text.toList ++ [']']) := by
    simp [String.toList_append]
  have hopen : readValue (depth + 1) ('[' :: (text.toList ++ [']'])) =
      readArray (readValue depth) (text.toList ++ [']']) := rfl
  rw [htext, hopen, readArray_closing hread hskip]

end SchemaScript.Json
