import SchemaScript.CommandLine
import SchemaScript.Proofs.StatementError

/-! A delivery where the state of the host is its files. Reading changes no files, and the script
is written last, so that the files are as before when any step fails. What the steps come to is said
by one chain of results, from which a run is read off. -/

namespace SchemaScript.CommandLine

/-! ### Single steps -/

section Steps

variable {σ ε α β : Type} {files after : σ} {step : ExceptT ε (StateM σ) α}

theorem bind_run_of_ok {value : α} (h : step.run.run files = (.ok value, after))
    (next : α → ExceptT ε (StateM σ) β) :
    (step >>= next).run.run files = (next value).run.run after := by
  rw [ExceptT.run_bind, StateT.run_bind, h]
  rfl

/-- Nothing is done after a step that fails. -/
theorem bind_run_of_error {failure : ε} (h : step.run.run files = (.error failure, after))
    (next : α → ExceptT ε (StateM σ) β) :
    (step >>= next).run.run files = (.error failure, after) := by
  rw [ExceptT.run_bind, StateT.run_bind, h]
  rfl

/-- What steps come to that leave the files as they were unless all go well. -/
def leave (files : σ) : Except ε (α × σ) → Except ε α × σ
  | .ok (value, after) => (.ok value, after)
  | .error failure => (.error failure, files)

/-- A step that only looks may go before steps that leave all or nothing. -/
theorem bind_run {result : Except ε α} {next : α → ExceptT ε (StateM σ) β}
    {rest : α → Except ε (β × σ)} (h : step.run.run files = (result, files))
    (hnext : ∀ value, (next value).run.run files = leave files (rest value)) :
    (step >>= next).run.run files = leave files (result >>= rest) := by
  cases result with
  | error failure => exact bind_run_of_error h next
  | ok value => exact (bind_run_of_ok h next).trans (hnext value)

theorem ofExcept_run (result : Except ε α) (files : σ) :
    (MonadExcept.ofExcept result : ExceptT ε (StateM σ) α).run.run files = (result, files) := by
  cases result <;> rfl

theorem adapt_run {ε' : Type} (step : ExceptT ε (StateM σ) α) (fault : ε → ε') (files : σ) :
    (step.adapt fault).run.run files =
      ((step.run.run files).1.mapError fault, (step.run.run files).2) :=
  rfl

variable [FileSystem σ]

theorem read_run (files : σ) (path : String) :
    (Host.ofFiles.read path).run.run files = (FileSystem.read files path, files) :=
  rfl

theorem write_run (files : σ) (path text : String) :
    (Host.ofFiles.write path text).run.run files =
      match FileSystem.write files path text with
      | .ok after => (.ok (), after)
      | .error error => (.error error, files) :=
  rfl

end Steps

/-! ### The steps of a delivery -/

variable {σ : Type} [FileSystem σ]

def scriptFrom (options : Options) (files : σ) : Except Failure String := do
  let text ← (FileSystem.read files options.input).mapError (.unreadable options.input)
  (Document.render options.dialect text).mapError (.unrenderable options.input)

/-- The script is found in the files without any change to them, whether or not the log is asked
for. -/
theorem script_run (options : Options) (files : σ) :
    (script Host.ofFiles options).run.run files = (scriptFrom options files, files) := by
  have hread := adapt_run (Host.ofFiles.read options.input) (Failure.unreadable options.input)
    files
  rw [read_run] at hread
  unfold script scriptFrom
  cases hdocument : (FileSystem.read files options.input).mapError
      (Failure.unreadable options.input) with
  | error failure =>
    rw [hdocument] at hread
    exact bind_run_of_error hread _
  | ok text =>
    rw [hdocument] at hread
    rw [bind_run_of_ok hread]
    cases options.verbose with
    | true => exact ofExcept_run _ files
    | false => exact ofExcept_run _ files

/-- The standard output and the files after a text is brought to its path. -/
def placed (path : Option String) (text : String) (files : σ) : Except Failure (String × σ) :=
  match path with
  | none => .ok (text, files)
  | some path => ((FileSystem.write files path text).mapError (.unwritable path)).map ("", ·)

theorem place_run (path : Option String) (text : String) (files : σ) :
    (place Host.ofFiles path text).run.run files = leave files (placed path text files) := by
  cases path with
  | none => rfl
  | some path =>
    have hwrite := adapt_run (Host.ofFiles.write path text) (Failure.unwritable path) files
    rw [write_run] at hwrite
    simp only [place, placed]
    cases hafter : FileSystem.write files path text with
    | error error =>
      rw [hafter] at hwrite
      exact bind_run_of_error hwrite _
    | ok after =>
      rw [hafter] at hwrite
      exact bind_run_of_ok hwrite _

/-- All steps in one, by their results. -/
def delivery (arguments : List String) (files : σ) : Except Failure (String × σ) := do
  let options ← readOptions arguments
  let text ← scriptFrom options files
  placed options.output text files

theorem deliver_run (arguments : List String) (files : σ) :
    (deliver Host.ofFiles arguments).run.run files = leave files (delivery arguments files) := by
  refine bind_run (ofExcept_run (readOptions arguments) files) fun options => ?_
  refine bind_run (script_run options files) fun text => ?_
  exact place_run options.output text files

theorem run_eq (program : String) (arguments : List String) (files : σ) :
    run program arguments files = match delivery arguments files with
      | .ok (stdout, after) => ⟨0, stdout, "", after⟩
      | .error failure => ⟨1, "", failure.message program, files⟩ := by
  rw [run, deliver_run]
  cases delivery arguments files <;> rfl

end SchemaScript.CommandLine
