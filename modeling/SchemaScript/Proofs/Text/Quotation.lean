import SchemaScript.Text.Quoted

/-! Quoted texts as tokens. A token is the quotation of a text when it begins and ends with the mark,
the marks in between come in pairs, and one mark for each pair gives the text. Quoting a text writes
its one quotation, so the text can be read off it. Reading from the left, with more text behind,
accepts the same quotations and nothing else. -/

namespace SchemaScript.Text

/-- One mark for each pair of them, unless a mark stands alone. -/
def undouble (mark : Char) : List Char → Option (List Char)
  | [] => some []
  | c :: rest =>
    if c = mark then
      match rest with
      | [] => none
      | d :: rest' => if d = mark then (undouble mark rest').map (mark :: ·) else none
    else (undouble mark rest).map (c :: ·)

theorem undouble_doubleMarks (mark : Char) (text : List Char) :
    undouble mark (doubleMarks mark text) = some text := by
  induction text with
  | nil => rfl
  | cons c rest ih =>
    by_cases hc : c = mark
    · subst hc
      simp [doubleMarks, undouble, ih]
    · rw [doubleMarks, if_neg hc, undouble.eq_def]
      simp [hc, ih]

theorem eq_doubleMarks_of_undouble {mark : Char} {body text : List Char}
    (h : undouble mark body = some text) : body = doubleMarks mark text := by
  fun_induction undouble mark body generalizing text with
  | case1 =>
    obtain rfl := Option.some.inj h
    rfl
  | case2 => contradiction
  | case3 rest ih =>
    obtain ⟨tail, htail, rfl⟩ := Option.map_eq_some_iff.1 h
    rw [doubleMarks, if_pos rfl, ← ih htail]
  | case4 => contradiction
  | case5 c rest hc ih =>
    obtain ⟨tail, htail, rfl⟩ := Option.map_eq_some_iff.1 h
    rw [doubleMarks, if_neg hc, ← ih htail]

theorem undouble_eq_some_iff {mark : Char} {body text : List Char} :
    undouble mark body = some text ↔ body = doubleMarks mark text :=
  ⟨eq_doubleMarks_of_undouble, fun h => h ▸ undouble_doubleMarks mark text⟩

theorem quotedBy_injective {mark : Char} {first second : String}
    (h : quotedBy mark first = quotedBy mark second) : first = second := by
  have hbodies : doubleMarks mark first.toList = doubleMarks mark second.toList := by
    simpa [quotedBy, String.toList_ofList] using congrArg String.toList h
  have hread := undouble_doubleMarks mark first.toList
  rw [hbodies, undouble_doubleMarks, Option.some.injEq] at hread
  exact String.toList_inj.1 hread.symm

/-- The token is the text between marks, with two marks for each one in the text. -/
def IsQuotation (mark : Char) (text token : String) : Prop :=
  ∃ body, token.toList = mark :: (body ++ [mark]) ∧ undouble mark body = some text.toList

theorem isQuotation_iff {mark : Char} {text token : String} :
    IsQuotation mark text token ↔ token = quotedBy mark text := by
  rw [quotedBy, ← String.toList_inj, String.toList_ofList]
  constructor
  · rintro ⟨body, htoken, hbody⟩
    rw [htoken, undouble_eq_some_iff.1 hbody]
  · intro htoken
    exact ⟨_, htoken, undouble_doubleMarks mark text.toList⟩

/-- The ends of a token fix what would be between its marks. -/
theorem not_isQuotation {mark : Char} {token : String}
    (h : undouble mark token.toList.tail.dropLast = none) (text : String) :
    ¬IsQuotation mark text token := by
  rintro ⟨body, htoken, hbody⟩
  rw [htoken, List.tail_cons, List.dropLast_concat, hbody] at h
  contradiction

/-! ### Reading from the left -/

theorem eq_of_readMarked {mark : Char} {input text after : List Char}
    (h : readMarked mark input = some (text, after)) :
    input = doubleMarks mark text ++ mark :: after ∧ after.head? ≠ some mark := by
  fun_induction readMarked mark input generalizing text with
  | case1 => contradiction
  | case2 rest ih =>
    -- Two marks stand for one, and reading goes on behind both.
    obtain ⟨⟨inner, left⟩, hread, hsame⟩ := Option.map_eq_some_iff.1 h
    obtain ⟨rfl, rfl⟩ := Prod.mk.inj hsame
    obtain ⟨hrest, hafter⟩ := ih hread
    refine ⟨?_, hafter⟩
    rw [doubleMarks, if_pos rfl, List.cons_append, List.cons_append, ← hrest]
  | case3 d rest hd =>
    obtain ⟨rfl, rfl⟩ := Prod.mk.inj (Option.some.inj h)
    exact ⟨rfl, by simpa using hd⟩
  | case4 =>
    obtain ⟨rfl, rfl⟩ := Prod.mk.inj (Option.some.inj h)
    exact ⟨rfl, by simp⟩
  | case5 c rest hc ih =>
    obtain ⟨⟨inner, left⟩, hread, hsame⟩ := Option.map_eq_some_iff.1 h
    obtain ⟨rfl, rfl⟩ := Prod.mk.inj hsame
    obtain ⟨hrest, hafter⟩ := ih hread
    refine ⟨?_, hafter⟩
    rw [doubleMarks, if_neg hc, List.cons_append, ← hrest]

theorem toList_quotedBy_append (mark : Char) (text : String) (after : List Char) :
    (quotedBy mark text).toList ++ after =
      mark :: (doubleMarks mark text.toList ++ mark :: after) := by
  rw [quotedBy, String.toList_ofList, List.cons_append, List.append_assoc, List.singleton_append]

/-- Reading accepts what quoting writes, in front of anything but one more mark, and nothing else. -/
theorem readQuoted_eq_some_iff {mark : Char} {text : String} {input after : List Char} :
    readQuoted mark input = some (text.toList, after) ↔
      input = (quotedBy mark text).toList ++ after ∧ after.head? ≠ some mark := by
  rw [toList_quotedBy_append]
  constructor
  · intro h
    cases input with
    | nil => contradiction
    | cons c rest =>
      rw [readQuoted] at h
      split at h
      next hc =>
        obtain ⟨hrest, hafter⟩ := eq_of_readMarked h
        exact ⟨by rw [hc, hrest], hafter⟩
      next => contradiction
  · rintro ⟨rfl, hafter⟩
    rw [readQuoted, if_pos rfl, readMarked_doubleMarks mark text.toList after hafter]

/-! ### Other characters -/

theorem head?_append_ne {c : Char} {front rest : List Char} (hfront : front.head? ≠ some c)
    (hrest : rest.head? ≠ some c) : (front ++ rest).head? ≠ some c := by
  cases front with
  | nil => exact hrest
  | cons d front => exact hfront

theorem mem_doubleMarks {c mark : Char} {text : List Char} (h : c ∈ text) :
    c ∈ doubleMarks mark text := by
  induction text with
  | nil => contradiction
  | cons d rest ih =>
    rw [doubleMarks]
    rcases List.mem_cons.1 h with rfl | hrest
    · split <;> exact List.mem_cons_self
    · split <;> simp [ih hrest]

theorem notMem_doubleMarks {c mark : Char} {text : List Char} (h : c ∉ text) :
    c ∉ doubleMarks mark text := by
  induction text with
  | nil => exact h
  | cons d rest ih =>
    rw [List.mem_cons, not_or] at h
    rw [doubleMarks]
    split <;> simp [h.1, ih h.2]

theorem notMem_quotedBy {c mark : Char} {text : String} (hc : c ≠ mark) (h : c ∉ text.toList) :
    c ∉ (quotedBy mark text).toList := by
  rw [quotedBy, String.toList_ofList]
  simp [hc, notMem_doubleMarks h]

end SchemaScript.Text
