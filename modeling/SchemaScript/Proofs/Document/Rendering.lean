import SchemaScript.Proofs.Document.RoundTrip
import SchemaScript.Proofs.Json.Locality
import SchemaScript.Proofs.Request.Lines

/-! What a document is rendered to. Its scripts come in order, each on lines of its own, so that
documents can be put one behind another; a request without a script leaves the document without one,
and one that cannot be read is reported before any that cannot be written. Brackets around a single
request change nothing. -/

namespace SchemaScript.Document

open Text

variable {d : Dialect} {text : String} {requests : List Request}

/-! ### Lines -/

theorem line_of_isLines {script : String} (h : IsLines script) : line script = script := by
  rcases h with rfl | h
  · rfl
  · rw [EndsLine] at h
    rw [line, h, if_pos (by simp)]

theorem line_of_not_isLines {script : String} (h : ¬IsLines script) :
    line script = script ++ "\n" := by
  rw [IsLines, EndsLine, not_or] at h
  have hcond : ¬(script.isEmpty || script.toList.getLast? == some '\n') = true := by
    simpa using h
  rw [line, if_neg hcond]

theorem line_isLines (script : String) : IsLines (line script) := by
  by_cases h : IsLines script
  · rwa [line_of_isLines h]
  · rw [line_of_not_isLines h]
    exact (endsLine_newline script).isLines

/-! ### Scripts -/

theorem scripts_eq_ok_iff {out : String} :
    scripts d requests = .ok out ↔ ∃ parts,
      List.Forall₂ (fun request part => Request.script d request = .ok part) requests parts ∧
      out = concat (parts.map line) := by
  rw [scripts, bind_eq_ok_iff]
  simp only [mapM_eq_ok_iff, Except.ok.injEq, eq_comm (b := out)]

theorem scripts_eq_error_iff {reason : StatementError} :
    scripts d requests = .error reason ↔ FirstFailure (Request.script d) requests reason := by
  rw [← mapM_eq_error_iff, scripts]
  cases requests.mapM (Request.script d) <;> simp [bind, Except.bind]

theorem scripts_append (first second : List Request) :
    scripts d (first ++ second) = (do
      let front ← scripts d first
      let rest ← scripts d second
      .ok (front ++ rest)) := by
  simp only [scripts, List.mapM_append, bind_assoc]
  cases first.mapM (Request.script d) with
  | error reason => rfl
  | ok front =>
    cases second.mapM (Request.script d) with
    | error reason => rfl
    | ok rest =>
      simp only [bind, Except.bind, pure, Except.pure, List.map_append, concat_append]

theorem scripts_isLines {out : String} (h : scripts d requests = .ok out) : IsLines out := by
  obtain ⟨parts, -, rfl⟩ := scripts_eq_ok_iff.1 h
  apply isLines_concat
  intro part hpart
  obtain ⟨script, -, rfl⟩ := List.mem_map.1 hpart
  exact line_isLines script

/-! ### Documents -/

theorem render_of_parse (h : parse text = .ok requests) :
    render d text = (scripts d requests).mapError .statement := by
  rw [render, h]
  rfl

theorem render_eq_ok_iff {out : String} :
    render d text = .ok out ↔
      ∃ requests, parse text = .ok requests ∧ scripts d requests = .ok out := by
  rw [render, bind_eq_ok_iff]
  simp only [mapError_eq_ok_iff]

theorem render_eq_error_iff (h : parse text = .ok requests) {error : DocumentError} :
    render d text = .error error ↔
      ∃ reason, error = .statement reason ∧
        FirstFailure (Request.script d) requests reason := by
  rw [render_of_parse h]
  simp only [← scripts_eq_error_iff]
  cases scripts d requests <;> simp [Except.mapError, eq_comm]

theorem render_append {first second : String} {rest : List Request}
    (hfirst : parse first = .ok requests) (hsecond : parse second = .ok rest)
    (h : parse text = .ok (requests ++ rest)) :
    render d text = (do
      let front ← render d first
      let back ← render d second
      .ok (front ++ back)) := by
  rw [render_of_parse h, render_of_parse hfirst, render_of_parse hsecond, scripts_append]
  cases scripts d requests with
  | error reason => rfl
  | ok front => cases scripts d rest <;> rfl

/-- Of the items that cannot be read, the first one is reported, whatever could be written. -/
theorem render_of_mismatch {items : List Json} {item : Json} {reason : Mismatch}
    (h : Json.parse text = .ok (.array items)) (hitem : item ∈ items)
    (hread : Request.codec.read .plain item = .error reason) :
    ∃ first, FirstFailure (Request.codec.read .plain) items first ∧
      render d text = .error (.mismatch first) := by
  obtain ⟨first, hfirst⟩ := exists_firstFailure hitem hread
  refine ⟨first, hfirst, ?_⟩
  have hmap : ofJson (.array items) = .error first := mapM_eq_error_iff.2 hfirst
  simp only [render, parse, h, bind, Except.bind, Except.mapError, hmap]

theorem ofJson_singleton {value : Json} (h : ∀ items, value ≠ .array items) :
    ofJson (.array [value]) = ofJson value := by
  have hsingle : ofJson value = (Request.codec.read .plain value).map ([·]) := by
    cases value with
    | array items => exact absurd rfl (h items)
    | _ => rfl
  rw [hsingle, ofJson, List.mapM_cons, List.mapM_nil]
  cases Request.codec.read .plain value <;> rfl

theorem render_brackets {value : Json} (h : Json.parseWithin 126 text = .ok value)
    (hvalue : ∀ items, value ≠ .array items) :
    render d ("[" ++ text ++ "]") = render d text := by
  have hsingle : Json.parse text = .ok value := Json.parseWithin_mono (by decide) h
  have harray : Json.parse ("[" ++ text ++ "]") = .ok (.array [value]) :=
    Json.parseWithin_brackets h
  have hparse : parse ("[" ++ text ++ "]") = parse text := by
    simp only [parse, hsingle, harray, bind, Except.bind, Except.mapError, ofJson_singleton hvalue]
  rw [render, render, hparse]

theorem render_isLines {out : String} (h : render d text = .ok out) : IsLines out := by
  obtain ⟨requests, -, hscripts⟩ := render_eq_ok_iff.1 h
  exact scripts_isLines hscripts

/-- The requests of a document give one script together or fail together, with the reason of the
first one that fails; documents that are put together have their scripts put together. -/
theorem render_compositional (d : Dialect) :
    (∀ text requests, parse text = .ok requests →
      (∀ out, render d text = .ok out ↔ ∃ parts,
        List.Forall₂ (fun request part => Request.script d request = .ok part) requests parts ∧
        out = concat (parts.map line)) ∧
      ∀ error, render d text = .error error ↔ ∃ reason, error = .statement reason ∧
        FirstFailure (Request.script d) requests reason) ∧
    (∀ script, (IsLines script → line script = script) ∧
      (¬IsLines script → line script = script ++ "\n")) ∧
    (∀ first second text requests rest, parse first = .ok requests → parse second = .ok rest →
      parse text = .ok (requests ++ rest) → render d text = do
        let front ← render d first
        let back ← render d second
        .ok (front ++ back)) ∧
    (∀ text out, render d text = .ok out → out = "" ∨ EndsLine out) ∧
    (∀ text items, Json.parse text = .ok (.array items) → ∀ item ∈ items, ∀ reason,
      Request.codec.read .plain item = .error reason →
      ∃ first, FirstFailure (Request.codec.read .plain) items first ∧
        render d text = .error (.mismatch first)) ∧
    (∀ text value, Json.parseWithin 126 text = .ok value → (∀ items, value ≠ .array items) →
      render d ("[" ++ text ++ "]") = render d text) ∧
    ∀ request script, Request.script d request = .ok script →
      script = "" ∨ script = noChanges ∨ EndsLine script := by
  refine ⟨fun text requests h => ⟨fun out => ?_, fun error => render_eq_error_iff h⟩,
    fun script => ⟨line_of_isLines, line_of_not_isLines⟩,
    fun first second text requests rest hfirst hsecond h => render_append hfirst hsecond h,
    fun text out h => render_isLines h,
    fun text items h item hitem reason hread => render_of_mismatch h hitem hread,
    fun text value h hvalue => render_brackets h hvalue, fun request script h => ?_⟩
  · rw [render_of_parse h, mapError_eq_ok_iff]
    exact scripts_eq_ok_iff
  · rcases Request.script_isLines h with hnone | hempty | hend
    · exact .inr (.inl hnone)
    · exact .inl hempty
    · exact .inr (.inr hend)

theorem parse_write_toJson (requests : List Request) :
    parse (toJson requests).write = .ok requests := by
  rw [parse_write (toJson_plain requests), ofJson_toJson]
  rfl

/-- Three requests, of which the second has nothing to change and so no line end of its own: after
each other, with another one behind them, behind two that fail, beside what is no request, and one
of them in brackets. -/
theorem render_compositional_three :
    let alice : User := { name := "ALICE" }
    let select : Request := .select { table := "EMPLOYEE" }
    let requests : List Request := [select, .alterUser ⟨alice, alice⟩,
      .generateName ⟨.table, ["NEW_TABLE_1", "NEW_TABLE_2"]⟩]
    let failing : List Request := [.alterDomainTracked ⟨"D", { changes := { name := true } }⟩,
      .createDomain {}]
    let mixed : Json := .array [Request.codec.write (.createDomain {}), .null]
    let single : String := (Request.codec.write select).write
    render {} (toJson requests).write =
      .ok "SELECT * FROM EMPLOYEE;\n/* there are no changes */\nNEW_TABLE_3\n" ∧
    render {} (toJson (requests ++ [select])).write = (do
      let front ← render {} (toJson requests).write
      let back ← render {} (toJson [select]).write
      .ok (front ++ back)) ∧
    render {} (toJson (failing ++ requests)).write = .error (.statement .domainWithoutNewName) ∧
    (∃ reason, render {} mixed.write = .error (.mismatch reason)) ∧
    render {} ("[" ++ single ++ "]") = render {} single := by
  intro alice select requests failing mixed single
  obtain ⟨hall, -, happend, -, hmismatch, hbrackets, -⟩ := render_compositional {}
  refine ⟨?_, ?_, ?_, ?_, ?_⟩
  · have hscripts :
        List.Forall₂ (fun request part => Request.script {} request = .ok part) requests
          ["SELECT * FROM EMPLOYEE;\n", noChanges, "NEW_TABLE_3\n"] :=
      .cons rfl (.cons rfl (.cons rfl .nil))
    obtain ⟨hok, -⟩ := hall _ requests (parse_write_toJson requests)
    exact (hok _).2 ⟨_, hscripts, by decide⟩
  · exact happend _ _ _ requests [select] (parse_write_toJson _) (parse_write_toJson _)
      (parse_write_toJson _)
  · have hfailure : FirstFailure (Request.script {}) (failing ++ requests) .domainWithoutNewName :=
      ⟨[], _, _, rfl, by simp, rfl⟩
    obtain ⟨-, herror⟩ := hall _ (failing ++ requests) (parse_write_toJson _)
    exact (herror _).2 ⟨_, rfl, hfailure⟩
  · have hplain : mixed.Plain Json.depthLimit := by
      refine .array fun item hitem => ?_
      rcases List.mem_pair.1 hitem with rfl | rfl
      · exact (Request.codec_lawful.plain _).mono (by decide)
      · exact .null
    obtain ⟨first, -, hrender⟩ := hmismatch _ _ (Json.parseWithin_write hplain) .null
      (by simp [Json.orderedItems, Json.ordered]) _ rfl
    exact ⟨first, hrender⟩
  · have hplain : (Request.codec.write select).Plain 126 :=
      (Request.codec_lawful.plain select).mono (by decide)
    apply hbrackets _ _ (Json.parseWithin_write hplain)
    intro items h
    contradiction

end SchemaScript.Document
