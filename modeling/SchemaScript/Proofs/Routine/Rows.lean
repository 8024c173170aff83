import SchemaScript.Proofs.Column.ParameterList
import SchemaScript.Routine.Statement

/-! The rows of procedures and functions. Inputs and outputs are written always, variables only
before a body of the routine's own; the first named row that is written but cannot be is the fault
of the whole. Parentheses stand around lists that have a named row, and around no others. -/

namespace SchemaScript

open Column (FirstFault IsBadRow parameterList variableBlock)

variable {d : Dialect} {reason : StatementError} {script : String}

/-! ### The parts of a routine -/

/-- A routine before its inputs. -/
def routineStart (d : Dialect) (kind : ObjectKind) (name : String) (authId : Option String) :
    String :=
  "CREATE OR ALTER " ++ kind.keyword ++ " " ++ d.identifier name ++
    Text.optional ("\nAUTHID " ++ Text.trim ·) (Text.given authId)

/-- The text of a list between `opening` and a parenthesis if one of its rows has a name, and
nothing otherwise. -/
def enclosedBy (opening : String) (rows : List Column) (list : String) : String :=
  if rows.any (·.hasName) then opening ++ list ++ ")" else ""

/-- The variables of a routine that has a body of its own. -/
def bodyRows (entryPoint : Option String) (locals : List Column) : List Column :=
  if (Text.given entryPoint).isNone then locals else []

section

variable {kind : ObjectKind} {name body head list : String}
  {authId entryPoint engine : Option String} {security : Option SqlSecurity}
  {rows inputs locals : List Column}

theorem routineHead_eq :
    routineHead d kind name authId inputs = (do
      let list ← parameterList d inputs
      .ok (routineStart d kind name authId ++ enclosedBy " (\n" inputs list)) := by
  show (if inputs.any (·.hasName) then (do
      let list ← parameterList d inputs
      .ok (routineStart d kind name authId ++ " (\n" ++ list ++ ")"))
    else .ok (routineStart d kind name authId)) = _
  by_cases hnamed : inputs.any (·.hasName) = true
  · simp only [enclosedBy, if_pos hnamed, String.append_assoc]
  · have hunnamed : ∀ c ∈ inputs, c.hasName = false := by simpa using hnamed
    rw [if_neg hnamed, Column.parameterList_of_unnamed hunnamed]
    show Except.ok _ = Except.ok _
    rw [enclosedBy, if_neg hnamed, String.append_empty]

theorem returnsText_eq (h : parameterList d rows = .ok list) :
    Procedure.returnsText list = enclosedBy "\nRETURNS (\n" rows list := by
  rw [Procedure.returnsText, enclosedBy, Column.isBlank_parameterList h]
  cases rows.any (·.hasName) <;> rfl

theorem routineHead_eq_ok_iff :
    routineHead d kind name authId inputs = .ok head ↔ ∃ list, parameterList d inputs = .ok list ∧
      routineStart d kind name authId ++ enclosedBy " (\n" inputs list = head := by
  simp only [routineHead_eq, bind_eq_ok_iff, Except.ok.injEq]

theorem routineHead_eq_error_iff :
    routineHead d kind name authId inputs = .error reason ↔ FirstFault inputs reason := by
  simp only [routineHead_eq, bind_eq_error_iff, reduceCtorEq, and_false, exists_false, or_false]
  exact Column.writeRows_eq_error_iff

theorem exists_routineHead_iff :
    (∃ head, routineHead d kind name authId inputs = .ok head) ↔ ∀ c ∈ inputs, ¬c.IsBadRow := by
  rw [← Column.exists_writeRows_iff]
  constructor
  · rintro ⟨_, hhead⟩
    obtain ⟨list, hlist, -⟩ := routineHead_eq_ok_iff.1 hhead
    exact ⟨list, hlist⟩
  · rintro ⟨list, hlist⟩
    exact ⟨_, routineHead_eq_ok_iff.2 ⟨list, hlist, rfl⟩⟩

theorem routineBody_eq_error_iff :
    routineBody d security entryPoint engine locals body = .error reason ↔
      FirstFault (bodyRows entryPoint locals) reason := by
  unfold routineBody bodyRows
  cases Text.given entryPoint with
  | some entryPoint => simp [FirstFault, not_isFirst_nil]
  | none =>
    simp only [bind_eq_error_iff, reduceCtorEq, and_false, exists_false, or_false]
    exact Column.writeRows_eq_error_iff

/-- What an external routine does not have is not read. -/
theorem routineBody_external (h : Text.given entryPoint ≠ none) (locals others : List Column)
    (body other : String) :
    routineBody d security entryPoint engine others other =
      routineBody d security entryPoint engine locals body := by
  obtain ⟨target, htarget⟩ := Option.ne_none_iff_exists'.1 h
  rw [routineBody, routineBody, htarget]

end

theorem mem_bodyRows_iff {entryPoint : Option String} {locals : List Column} {c : Column} :
    c ∈ bodyRows entryPoint locals ↔ Text.given entryPoint = none ∧ c ∈ locals := by
  unfold bodyRows
  split <;> simp_all

/-! ### Procedures -/

namespace Procedure

variable {p : Procedure}

/-- The rows that are written, in the order in which they are. -/
def writtenRows (p : Procedure) : List Column :=
  p.inputs ++ p.outputs ++ bodyRows p.entryPoint p.locals

theorem create_eq_error_iff : create d p = .error reason ↔ FirstFault p.writtenRows reason := by
  simp only [create, writtenRows, bind_eq_error_iff, routineHead_eq_error_iff,
    routineBody_eq_error_iff, reduceCtorEq, and_false, exists_false, or_false, exists_and_right,
    exists_routineHead_iff, parameterList, Column.writeRows_eq_error_iff,
    Column.exists_writeRows_iff, List.append_assoc, Column.firstFault_append_iff]

theorem exists_create_error_iff :
    (∃ reason, create d p = .error reason) ↔ (∃ c ∈ p.inputs, c.IsBadRow) ∨
      (∃ c ∈ p.outputs, c.IsBadRow) ∨
      Text.given p.entryPoint = none ∧ ∃ c ∈ p.locals, c.IsBadRow := by
  simp only [create_eq_error_iff, Column.exists_firstFault_iff, writtenRows, List.append_assoc,
    List.mem_append, mem_bodyRows_iff, or_and_right, exists_or, and_assoc, exists_and_left]

theorem script_of_create (h : create d p = .ok script) :
    ∃ inputs outputs body, parameterList d p.inputs = .ok inputs ∧
      parameterList d p.outputs = .ok outputs ∧
      routineBody d p.security p.entryPoint p.engine p.locals p.body = .ok body ∧
      script = routineStart d .procedure p.name p.authId ++ enclosedBy " (\n" p.inputs inputs ++
        enclosedBy "\nRETURNS (\n" p.outputs outputs ++ body ++
        SchemaScript.comment d .procedure p.name p.comment blockDelimiter ++
        memberComments d p.name .parameter blockDelimiter p.inputs ++
        memberComments d p.name .parameter blockDelimiter p.outputs := by
  obtain ⟨head, hhead, h⟩ := bind_eq_ok_iff.1 h
  obtain ⟨outputs, houtputs, h⟩ := bind_eq_ok_iff.1 h
  obtain ⟨body, hbody, h⟩ := bind_eq_ok_iff.1 h
  obtain ⟨inputs, hinputs, rfl⟩ := routineHead_eq_ok_iff.1 hhead
  refine ⟨inputs, outputs, body, hinputs, houtputs, hbody, ?_⟩
  rw [← Except.ok.inj h, returnsText_eq houtputs]

theorem create_external (h : Text.given p.entryPoint ≠ none) (locals : List Column)
    (body : String) : create d { p with locals, body } = create d p := by
  unfold create
  simp only [routineBody_external h p.locals locals p.body body]

end Procedure

/-! ### Functions -/

namespace Function

variable {f : Function}

/-- The rows that are written, in the order in which they are. The type that is returned is none of
them. -/
def writtenRows (f : Function) : List Column := f.arguments ++ bodyRows f.entryPoint f.locals

theorem create_eq_error_iff : create d f = .error reason ↔ FirstFault f.writtenRows reason := by
  simp only [create, writtenRows, bind_eq_error_iff, routineHead_eq_error_iff,
    routineBody_eq_error_iff, reduceCtorEq, and_false, exists_false, or_false, exists_and_right,
    exists_routineHead_iff, Column.firstFault_append_iff]

theorem exists_create_error_iff :
    (∃ reason, create d f = .error reason) ↔ (∃ c ∈ f.arguments, c.IsBadRow) ∨
      Text.given f.entryPoint = none ∧ ∃ c ∈ f.locals, c.IsBadRow := by
  simp only [create_eq_error_iff, Column.exists_firstFault_iff, writtenRows, List.mem_append,
    mem_bodyRows_iff, or_and_right, exists_or, and_assoc, exists_and_left]

theorem script_of_create (h : create d f = .ok script) :
    ∃ arguments body, parameterList d f.arguments = .ok arguments ∧
      routineBody d f.security f.entryPoint f.engine f.locals f.body = .ok body ∧
      script = routineStart d .function f.name none ++ enclosedBy " (\n" f.arguments arguments ++
        returnsText d f ++ body ++
        SchemaScript.comment d .function f.name f.comment blockDelimiter ++
        memberComments d f.name .parameter blockDelimiter f.arguments := by
  obtain ⟨head, hhead, h⟩ := bind_eq_ok_iff.1 h
  obtain ⟨body, hbody, h⟩ := bind_eq_ok_iff.1 h
  obtain ⟨arguments, harguments, rfl⟩ := routineHead_eq_ok_iff.1 hhead
  exact ⟨arguments, body, harguments, hbody, (Except.ok.inj h).symm⟩

theorem create_external (h : Text.given f.entryPoint ≠ none) (locals : List Column)
    (body : String) : create d { f with locals, body } = create d f := by
  unfold create
  simp only [routineBody_external h f.locals locals f.body body]
  rfl

end Function

/-! ### Routines and their rows -/

/-- A routine cannot be created exactly when one of its named inputs or outputs cannot be written,
or one of its named variables if it has a body of its own, and the first of these is reported. One
that is created has parentheses around its inputs, and around the outputs behind `RETURNS`, exactly
when one of them has a name. The variables and the body of an external routine are not read, and the
type that a function returns is no reason to fail. -/
theorem routines_ofRows (d : Dialect) :
    (∀ p : Procedure,
      (∀ reason, p.create d = .error reason ↔ FirstFault p.writtenRows reason) ∧
      ((∃ reason, p.create d = .error reason) ↔ (∃ c ∈ p.inputs, c.IsBadRow) ∨
        (∃ c ∈ p.outputs, c.IsBadRow) ∨
        Text.given p.entryPoint = none ∧ ∃ c ∈ p.locals, c.IsBadRow) ∧
      (∀ script, p.create d = .ok script → ∃ inputs outputs body,
        parameterList d p.inputs = .ok inputs ∧ parameterList d p.outputs = .ok outputs ∧
        routineBody d p.security p.entryPoint p.engine p.locals p.body = .ok body ∧
        script = routineStart d .procedure p.name p.authId ++
          enclosedBy " (\n" p.inputs inputs ++ enclosedBy "\nRETURNS (\n" p.outputs outputs ++
          body ++ comment d .procedure p.name p.comment blockDelimiter ++
          memberComments d p.name .parameter blockDelimiter p.inputs ++
          memberComments d p.name .parameter blockDelimiter p.outputs) ∧
      (Text.given p.entryPoint ≠ none → ∀ locals body,
        Procedure.create d { p with locals, body } = p.create d)) ∧
    ∀ f : Function,
      (∀ reason, f.create d = .error reason ↔ FirstFault f.writtenRows reason) ∧
      ((∃ reason, f.create d = .error reason) ↔ (∃ c ∈ f.arguments, c.IsBadRow) ∨
        Text.given f.entryPoint = none ∧ ∃ c ∈ f.locals, c.IsBadRow) ∧
      (∀ script, f.create d = .ok script → ∃ arguments body,
        parameterList d f.arguments = .ok arguments ∧
        routineBody d f.security f.entryPoint f.engine f.locals f.body = .ok body ∧
        script = routineStart d .function f.name none ++
          enclosedBy " (\n" f.arguments arguments ++ Function.returnsText d f ++ body ++
          comment d .function f.name f.comment blockDelimiter ++
          memberComments d f.name .parameter blockDelimiter f.arguments) ∧
      (Text.given f.entryPoint ≠ none → ∀ locals body,
        Function.create d { f with locals, body } = f.create d) ∧
      ∀ returnType reason, Function.create d { f with returnType } = .error reason ↔
        f.create d = .error reason := by
  refine ⟨fun p => ⟨fun reason => Procedure.create_eq_error_iff, Procedure.exists_create_error_iff,
    fun script => Procedure.script_of_create, Procedure.create_external⟩,
    fun f => ⟨fun reason => Function.create_eq_error_iff, Function.exists_create_error_iff,
      fun script => Function.script_of_create, Function.create_external, ?_⟩⟩
  intro returnType reason
  rw [Function.create_eq_error_iff, Function.create_eq_error_iff]
  rfl

/-- A procedure with a cursor that has no query among its variables, and a function that returns a
type that no column can have. -/
theorem routines_ofRows_total :
    let cursor : Column := { name := some "C1", cursor := some {} }
    let p : Procedure :=
      { name := "TOTAL", inputs := [.ofType "SHOP" "INTEGER", {}], outputs := [{}],
        locals := [cursor] }
    let external : Procedure := { p with entryPoint := some "lib!total", engine := some "UDR" }
    let script := "CREATE OR ALTER PROCEDURE TOTAL (\n\tSHOP INTEGER\n)" ++
      "\nEXTERNAL NAME 'lib!total' ENGINE UDR^\n"
    let f : Function := { name := "TOTAL", locals := [cursor] }
    let overdetermined : Column := { computedBy := some "1", domain := some "D_TOTAL" }
    (p.create {} = .error (.cursorWithoutSelect "C1") ∧
      FirstFault p.writtenRows (.cursorWithoutSelect "C1")) ∧
    (external.create {} = .ok script ∧
      (∃ inputs outputs body, parameterList {} external.inputs = .ok inputs ∧
        parameterList {} external.outputs = .ok outputs ∧
        script = routineStart {} .procedure "TOTAL" none ++
          enclosedBy " (\n" external.inputs inputs ++
          enclosedBy "\nRETURNS (\n" external.outputs outputs ++ body) ∧
      ∀ locals body, Procedure.create {} { external with locals, body } = .ok script) ∧
    Function.create {} { f with returnType := some overdetermined } =
      .error (.cursorWithoutSelect "C1") := by
  intro cursor p external script f overdetermined
  obtain ⟨hprocedures, hfunctions⟩ := routines_ofRows {}
  have hfault : p.create {} = .error (.cursorWithoutSelect "C1") := by decide +kernel
  have hscript : external.create {} = .ok script := by decide +kernel
  have hfunction : f.create {} = .error (.cursorWithoutSelect "C1") := by decide +kernel
  obtain ⟨-, -, hparts, hunread⟩ := hprocedures external
  refine ⟨⟨hfault, ((hprocedures p).1 _).1 hfault⟩, ⟨hscript, ?_, fun locals body => ?_⟩, ?_⟩
  · obtain ⟨inputs, outputs, body, hinputs, houtputs, -, hrest⟩ := hparts script hscript
    have hnone : memberComments {} external.name .parameter blockDelimiter external.inputs = "" ∧
        memberComments {} external.name .parameter blockDelimiter external.outputs = "" ∧
        comment {} .procedure external.name external.comment blockDelimiter = "" := by
      decide +kernel
    rw [hnone.1, hnone.2.1, hnone.2.2] at hrest
    simp only [String.append_empty] at hrest
    exact ⟨inputs, outputs, body, hinputs, houtputs, hrest⟩
  · rw [← hscript]
    exact hunread (by decide) locals body
  · exact ((hfunctions f).2.2.2.2 _ _).2 hfunction

end SchemaScript
