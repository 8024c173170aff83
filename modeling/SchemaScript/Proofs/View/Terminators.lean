import SchemaScript.View
import SchemaScript.Proofs.Text.Blank

/-! What becomes of the semicolons behind the query of a view. They are taken off with the blanks
around them as long as they stand together. Where a blank parts two of them, the first one stays in
the query, and the script has it in front of its own. -/

namespace SchemaScript.View

open Text

variable {s t front gap : String}

/-! ### Semicolons at the end of a text -/

/-- The text ends in a semicolon with blanks behind it, one at least. -/
def EndsInGap (s : String) : Prop :=
  ∃ front gap, s = front ++ ";" ++ gap ∧ gap ≠ "" ∧ isBlank gap = true

def dropSemicolons (s : String) : String := dropEndWhile (· == ';') s

theorem dropSemicolons_append_semicolon (s : String) :
    dropSemicolons (s ++ ";") = dropSemicolons s := dropEndWhile_append (by simp) s

theorem getLast?_append_gap (hgap : gap ≠ "") (hblank : isBlank gap = true) (s : String) :
    ∃ c, (s ++ gap).toList.getLast? = some c ∧ isBlankChar c = true := by
  have hne : gap.toList ≠ [] := mt String.toList_eq_nil_iff.1 hgap
  refine ⟨gap.toList.getLast hne, ?_, List.all_eq_true.1 hblank _ (List.getLast_mem hne)⟩
  rw [String.toList_append, List.getLast?_append_of_ne_nil _ hne, List.getLast?_eq_some_getLast hne]

/-- A blank at the end keeps the semicolons in front of it. -/
theorem dropSemicolons_append_gap (hgap : gap ≠ "") (hblank : isBlank gap = true) (s : String) :
    dropSemicolons (s ++ gap) = s ++ gap := by
  refine dropEndWhile_eq_self fun c hc => ?_
  obtain ⟨last, hlast, hlastBlank⟩ := getLast?_append_gap hgap hblank s
  obtain rfl : last = c := Option.some.inj (hlast.symm.trans hc)
  rw [beq_eq_false_iff_ne]
  rintro rfl
  exact absurd hlastBlank (by decide)

theorem endsInGap_of_getLast? (hlast : s.toList.getLast? = some ';') (hgap : gap ≠ "")
    (hblank : isBlank gap = true) (lead : String) : EndsInGap (lead ++ (s ++ gap)) := by
  obtain ⟨init, hinit⟩ := List.getLast?_eq_some_iff.1 hlast
  refine ⟨lead ++ .ofList init, gap, ?_, hgap, hblank⟩
  rw [← String.toList_inj]
  simp [hinit]

theorem isBlank_append_semicolon (front gap : String) : isBlank (front ++ ";" ++ gap) = false := by
  have hsemicolon : isBlank ";" = false := by decide
  simp [hsemicolon]

theorem trimEnd_append_semicolon (s : String) : trimEnd (s ++ ";") = s ++ ";" := by
  refine dropEndWhile_eq_self fun c hc => ?_
  obtain rfl : ';' = c := by simpa using hc
  decide

theorem trimStart_append_semicolon (s : String) : trimStart (s ++ ";") = trimStart s ++ ";" := by
  cases hs : isBlank s with
  | false => exact trimStart_append hs ";"
  | true =>
    have hempty : trimStart s = "" := by
      rw [trimStart, List.dropWhile_eq_nil_iff.2 (List.all_eq_true.1 hs), String.ofList_nil]
    rw [hempty, trimStart, String.toList_append,
      List.dropWhile_append_of_pos (List.all_eq_true.1 hs)]
    decide

theorem trimStart_append_gap (front gap : String) :
    trimStart (front ++ ";" ++ gap) = trimStart front ++ ";" ++ gap := by
  have hsolid := isBlank_append_semicolon front ""
  rw [String.append_empty] at hsolid
  rw [trimStart_append hsolid, trimStart_append_semicolon]

theorem trim_append_gap (hblank : isBlank gap = true) :
    trim (front ++ ";" ++ gap) = trimStart front ++ ";" := by
  rw [trim_append_of_isBlank hblank, trim, trimStart_append_semicolon, trimEnd_append_semicolon]

/-! ### One character more -/

theorem bareQuery_eq (s : String) : bareQuery s = trimEnd (dropSemicolons (trim s)) := rfl

theorem bareQuery_append_of_isBlank (h : isBlank t = true) (s : String) :
    bareQuery (s ++ t) = bareQuery s := by
  rw [bareQuery_eq, bareQuery_eq, trim_append_of_isBlank h]

theorem bareQuery_append_semicolon (s : String) :
    bareQuery (s ++ ";") = trimEnd (dropSemicolons (trimStart s)) := by
  rw [bareQuery_eq, trim, trimStart_append_semicolon, trimEnd_append_semicolon,
    dropSemicolons_append_semicolon]

/-- Behind a gap a semicolon is the only one that is taken off. -/
theorem bareQuery_append_of_endsInGap (h : EndsInGap s) : bareQuery (s ++ ";") = trim s := by
  obtain ⟨front, gap, rfl, hgap, hblank⟩ := h
  rw [bareQuery_append_semicolon, trimStart_append_gap, dropSemicolons_append_gap hgap hblank, trim,
    trimStart_append_gap]

/-- Without a gap a semicolon makes no difference. -/
theorem bareQuery_append_of_not_endsInGap (h : ¬EndsInGap s) :
    bareQuery (s ++ ";") = bareQuery s := by
  rw [bareQuery_append_semicolon, bareQuery_eq, trim]
  obtain ⟨lead, -, hlead⟩ := exists_trimStart s
  generalize trimStart s = query at hlead
  obtain ⟨gap, hblank, hquery⟩ := exists_trimEnd query
  by_cases hgap : gap = ""
  · rw [hgap, String.append_empty] at hquery
    rw [← hquery]
  · have hlast : ∀ c, (trimEnd query).toList.getLast? = some c → (c == ';') = false := by
      intro c hc
      rw [beq_eq_false_iff_ne]
      rintro rfl
      have hends := endsInGap_of_getLast? hc hgap hblank lead
      rw [← hquery, ← hlead] at hends
      exact h hends
    have hkept : dropSemicolons query = query := by
      rw [hquery]
      exact dropSemicolons_append_gap hgap hblank _
    have hkept' : dropSemicolons (trimEnd query) = trimEnd query := dropEndWhile_eq_self hlast
    rw [hkept, hkept']
    conv_lhs => rw [hquery]
    exact trimEnd_append_of_isBlank hblank _

theorem length_bareQuery_lt (h : EndsInGap s) : (bareQuery s).length < (trim s).length := by
  obtain ⟨front, gap, rfl, -, hblank⟩ := h
  rw [bareQuery_eq, trim_append_gap hblank, dropSemicolons_append_semicolon, String.length_append]
  have htrim := length_dropEndWhile_le isBlankChar (dropSemicolons (trimStart front))
  have hdrop := length_dropEndWhile_le (· == ';') (trimStart front)
  exact Nat.lt_succ_of_le (htrim.trans hdrop)

/-! ### Any number of characters more -/

/-- A semicolon of `tail`, written behind `s`, has a gap in front of it. -/
def PartsSemicolons (s tail : String) : Prop :=
  ∃ front back, tail = front ++ ";" ++ back ∧ EndsInGap (s ++ front)

theorem partsSemicolons_cons {c : Char} {rest : List Char} :
    PartsSemicolons s (.ofList (c :: rest)) ↔
      c = ';' ∧ EndsInGap s ∨ PartsSemicolons (s ++ .singleton c) (.ofList rest) := by
  constructor
  · rintro ⟨front, back, htail, hgap⟩
    obtain ⟨chars, rfl⟩ : ∃ chars, front = .ofList chars := ⟨front.toList, by simp⟩
    cases chars with
    | nil =>
      have hc : c = ';' := by simpa using congrArg (·.toList.head?) htail
      exact .inl ⟨hc, by simpa using hgap⟩
    | cons first chars =>
      have hparts : c = first ∧ String.ofList rest = .ofList chars ++ ";" ++ back := by
        simpa [String.append_assoc, String.singleton_append_inj] using htail
      obtain ⟨rfl, hrest⟩ := hparts
      exact .inr ⟨.ofList chars, back, hrest, by rwa [String.append_assoc, ← String.ofList_cons]⟩
  · rintro (⟨rfl, hgap⟩ | ⟨front, back, hrest, hgap⟩)
    · exact ⟨"", .ofList rest, by simp, by simpa using hgap⟩
    · refine ⟨.singleton c ++ front, back, ?_, by rwa [← String.append_assoc]⟩
      rw [String.ofList_cons, hrest]
      simp [String.append_assoc]

/-- A character that ends a query, or stands between those that do, leaves what is kept of the query
as it is, unless it is a semicolon behind a gap; then more is kept. -/
theorem bareQuery_append_singleton {c : Char} (hc : c = ';' ∨ isBlankChar c = true) (s : String) :
    (c = ';' ∧ EndsInGap s) ∧ (bareQuery s).length < (bareQuery (s ++ .singleton c)).length ∨
      ¬(c = ';' ∧ EndsInGap s) ∧ bareQuery (s ++ .singleton c) = bareQuery s := by
  rcases hc with rfl | hblank
  · by_cases hgap : EndsInGap s
    · refine .inl ⟨⟨rfl, hgap⟩, ?_⟩
      have hmore : bareQuery (s ++ .singleton ';') = trim s := bareQuery_append_of_endsInGap hgap
      rw [hmore]
      exact length_bareQuery_lt hgap
    · exact .inr ⟨fun h => hgap h.2, bareQuery_append_of_not_endsInGap hgap⟩
  · refine .inr ⟨?_, bareQuery_append_of_isBlank (by simpa [isBlank] using hblank) s⟩
    rintro ⟨rfl, -⟩
    exact absurd hblank (by decide)

theorem bareQuery_append {tail : List Char} (htail : ∀ c ∈ tail, c = ';' ∨ isBlankChar c = true)
    (s : String) :
    PartsSemicolons s (.ofList tail) ∧
        (bareQuery s).length < (bareQuery (s ++ .ofList tail)).length ∨
      ¬PartsSemicolons s (.ofList tail) ∧ bareQuery (s ++ .ofList tail) = bareQuery s := by
  induction tail generalizing s with
  | nil =>
    refine .inr ⟨?_, by simp⟩
    rintro ⟨front, back, htail, -⟩
    simpa using congrArg String.toList htail
  | cons c rest ih =>
    have hstep := bareQuery_append_singleton (htail c (by simp)) s
    have hrun := ih (fun c hc => htail c (by simp [hc])) (s ++ .singleton c)
    rw [String.append_assoc, ← String.ofList_cons] at hrun
    rw [partsSemicolons_cons]
    rcases hstep with ⟨hparts, hlt⟩ | ⟨hwhole, heq⟩
    · refine .inl ⟨.inl hparts, ?_⟩
      rcases hrun with ⟨-, hlt'⟩ | ⟨-, heq'⟩
      · exact hlt.trans hlt'
      · exact hlt.trans_eq (congrArg String.length heq'.symm)
    · rcases hrun with ⟨hparts, hlt'⟩ | ⟨hwhole', heq'⟩
      · rw [heq] at hlt'
        exact .inl ⟨.inr hparts, hlt'⟩
      · exact .inr ⟨not_or.2 ⟨hwhole, hwhole'⟩, heq'.trans heq⟩

theorem bareQuery_append_eq_iff {tail : String}
    (htail : ∀ c ∈ tail.toList, c = ';' ∨ isBlankChar c = true) (s : String) :
    bareQuery (s ++ tail) = bareQuery s ↔ ¬PartsSemicolons s tail := by
  have hrun := bareQuery_append htail s
  rw [String.ofList_toList] at hrun
  rcases hrun with ⟨hparts, hlt⟩ | ⟨hwhole, heq⟩
  · refine iff_of_false (fun heq => ?_) (not_not_intro hparts)
    rw [heq] at hlt
    exact lt_irrefl _ hlt
  · exact iff_of_true heq hwhole

/-! ### The end of the query -/

/-- The last semicolons of the text stand behind a gap, with blanks behind them at most. -/
def EndsParted (s : String) : Prop :=
  ∃ front semicolons back, s = front ++ semicolons ++ back ∧ EndsInGap front ∧ semicolons ≠ "" ∧
    (∀ c ∈ semicolons.toList, c = ';') ∧ isBlank back = true

theorem bareQuery_of_endsParted (h : EndsParted s) : ∃ query, bareQuery s = query ++ ";" := by
  obtain ⟨front, semicolons, back, rfl, ⟨start, gap, rfl, hgap, hblank⟩, hne, hall, hback⟩ := h
  have hkept : trimEnd (trimStart start ++ ";" ++ gap ++ semicolons) =
      trimStart start ++ ";" ++ gap ++ semicolons := by
    refine dropEndWhile_eq_self fun c hc => ?_
    have hlist : semicolons.toList ≠ [] := mt String.toList_eq_nil_iff.1 hne
    rw [String.toList_append, List.getLast?_append_of_ne_nil _ hlist] at hc
    rw [hall c (List.mem_of_getLast? hc)]
    decide
  have hdropped : dropSemicolons (trimStart start ++ ";" ++ gap ++ semicolons) =
      dropSemicolons (trimStart start ++ ";" ++ gap) :=
    dropEndWhile_append (fun c hc => by simp [hall c hc]) _
  refine ⟨trimStart start, ?_⟩
  rw [bareQuery_eq, trim_append_of_isBlank hback, trim,
    trimStart_append (isBlank_append_semicolon start gap), trimStart_append_gap, hkept, hdropped,
    dropSemicolons_append_gap hgap hblank, trimEnd_append_of_isBlank hblank,
    trimEnd_append_semicolon]

theorem endsParted_of_getLast? (h : (bareQuery s).toList.getLast? = some ';') : EndsParted s := by
  obtain ⟨lead, back, -, hback, hs⟩ := exists_trim s
  obtain ⟨semicolons, hall, hquery⟩ := exists_dropEndWhile (· == ';') (trim s)
  obtain ⟨gap, hblank, hkept⟩ := exists_trimEnd (dropSemicolons (trim s))
  have hgap : gap ≠ "" := by
    rintro rfl
    rw [bareQuery_eq, ← String.append_empty (s := trimEnd _), ← hkept] at h
    exact absurd (getLast?_dropEndWhile h) (by decide)
  have hne : semicolons ≠ "" := by
    rintro rfl
    -- The query would end in the gap, but no blank is left at its end.
    obtain ⟨c, hc, hcblank⟩ := getLast?_append_gap hgap hblank (trimEnd (dropSemicolons (trim s)))
    rw [← hkept, dropSemicolons, ← String.append_empty (s := dropEndWhile _ _), ← hquery] at hc
    exact Bool.false_ne_true ((getLast?_dropEndWhile hc).symm.trans hcblank)
  refine ⟨lead ++ dropSemicolons (trim s), semicolons, back, ?_, ?_, hne,
    fun c hc => beq_iff_eq.1 (hall c hc), hback⟩
  · conv_lhs => rw [hs, hquery]
    simp only [dropSemicolons, String.append_assoc]
  · rw [hkept]
    exact endsInGap_of_getLast? h hgap hblank lead

/-- The query as it is written ends in a semicolon of its own when semicolons stay parted. -/
theorem getLast?_bareQuery_iff :
    (bareQuery s).toList.getLast? = some ';' ↔ EndsParted s := by
  refine ⟨endsParted_of_getLast?, fun h => ?_⟩
  obtain ⟨query, hquery⟩ := bareQuery_of_endsParted h
  simp [hquery]

/-! ### The script -/

theorem exists_create_eq (d : Dialect) (v : View) : ∃ head, ∀ select,
    create d { v with select } = head ++ "\nAS\n" ++ bareQuery select ++ ";\n" ++
      SchemaScript.comment d .view v.name v.comment ";" :=
  ⟨verb d v ++ " VIEW " ++ d.identifier v.name ++
    Text.optional (fun columns => " (" ++ Text.trim columns ++ ")") (Text.given v.columns),
    fun _ => rfl⟩

/-- Semicolons and blanks that are added behind the query make no difference to the script exactly
if none of the semicolons stands behind a gap, by which it is parted from one before it. The script
puts one semicolon behind the query that is left, and what is left ends in another one exactly if
the last semicolons it came with were parted from those before. -/
theorem create_addTerminators_iff (d : Dialect) (v : View) {tail : String}
    (htail : ∀ c ∈ tail.toList, c = ';' ∨ isBlankChar c = true) :
    (create d { v with select := v.select ++ tail } = create d v ↔
      ¬PartsSemicolons v.select tail) ∧
    (∃ head, create d v = head ++ "\nAS\n" ++ bareQuery v.select ++ ";\n" ++
      SchemaScript.comment d .view v.name v.comment ";") ∧
    ((bareQuery v.select).toList.getLast? = some ';' ↔ EndsParted v.select) := by
  obtain ⟨head, hcreate⟩ := exists_create_eq d v
  have hscript := hcreate v.select
  refine ⟨?_, ⟨head, hscript⟩, getLast?_bareQuery_iff⟩
  rw [← bareQuery_append_eq_iff htail v.select, hcreate]
  constructor
  · intro h
    simpa only [String.append_left_inj, String.append_right_inj] using h.trans hscript
  · intro h
    rw [h]
    exact hscript.symm

/-- Two semicolons that stand together, with blanks around them. -/
theorem create_addTerminators_stock :
    create {} { name := "STOCK", select := "SELECT ID FROM ITEM" ++ " ;;\n" } =
        create {} { name := "STOCK", select := "SELECT ID FROM ITEM" } ∧
      ¬PartsSemicolons "SELECT ID FROM ITEM" " ;;\n" := by
  have hsame : create {} { name := "STOCK", select := "SELECT ID FROM ITEM" ++ " ;;\n" } =
      create {} { name := "STOCK", select := "SELECT ID FROM ITEM" } := by decide +kernel
  obtain ⟨hiff, -⟩ := @create_addTerminators_iff {}
    { name := "STOCK", select := "SELECT ID FROM ITEM" } " ;;\n" (by simp [isBlankChar])
  exact ⟨hsame, hiff.1 hsame⟩

/-- A semicolon on a line of its own leaves the one before it in the query. -/
theorem create_keepsTerminator :
    (∀ c ∈ ";\n;".toList, c = ';' ∨ isBlankChar c = true) ∧
      create {} { name := "STOCK", select := "SELECT ID FROM ITEM" ++ ";\n;" } =
        "CREATE OR ALTER VIEW STOCK\nAS\nSELECT ID FROM ITEM;;\n" ∧
      create {} { name := "STOCK", select := "SELECT ID FROM ITEM" ++ ";\n;" } ≠
        create {} { name := "STOCK", select := "SELECT ID FROM ITEM" } := by
  refine ⟨by simp [isBlankChar], ?_⟩
  decide +kernel

end SchemaScript.View
