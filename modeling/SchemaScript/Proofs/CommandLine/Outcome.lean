import SchemaScript.Proofs.CommandLine.Delivery
import SchemaScript.Proofs.CommandLine.Settings
import SchemaScript.Proofs.Dictionary

/-! What a run leaves behind, whatever the file system. One that fails leaves nothing, on the
standard output or in the files. One that succeeds has the script that its arguments ask for in one
place, which is the last output path among its settings, or the standard output without such a path;
and a run fails for want of such a script, or because it cannot be written there, only. -/

namespace SchemaScript

/-! ### File systems -/

/-- What is relied on when a text is written. A path that keeps what it is given, as that of a
device does not, has the text afterwards; a path that is apart, and leads to another file, has what
it had before. -/
structure FileSystem.Lawful {σ : Type} [FileSystem σ] (Keeps : σ → String → Prop)
    (Apart : σ → String → String → Prop) : Prop where
  read_write {files after : σ} {path text : String} :
    Keeps files path → write files path text = .ok after → read after path = .ok text
  read_other {files after : σ} {path other text : String} :
    Apart files path other → write files path text = .ok after → read after other = read files other

theorem Directory.write_eq_ok {files after : Directory} {path text : String}
    (h : FileSystem.write files path text = .ok after) :
    after = files.insert path (.text text) := by
  simp only [FileSystem.write] at h
  split at h
  · contradiction
  · cases h
    rfl

/-- Files by name keep what is written to them, and any two names are apart. -/
theorem Directory.lawful :
    FileSystem.Lawful (fun (_ : Directory) _ => True) (fun _ path other => other ≠ path) where
  read_write _ h := by
    rw [write_eq_ok h]
    simp only [FileSystem.read, Dictionary.get?_insert, if_pos]
  read_other hother h := by
    rw [write_eq_ok h]
    simp only [FileSystem.read, Dictionary.get?_insert, if_neg hother]

namespace CommandLine

variable {σ : Type} [FileSystem σ] {program out : String} {arguments : List String}
  {path : Option String} {files after : σ}

/-! ### What the arguments ask for -/

/-- The arguments ask for the script of the document in their input, and have it go to the path. -/
def AskFor (files : σ) (arguments : List String) (out : String) (path : Option String) : Prop :=
  ∃ input rest settings text, arguments = input :: rest ∧ Spell settings rest ∧
    FileSystem.read files input = .ok text ∧
    Document.render (optionsOf input settings).dialect text = .ok out ∧
    outputPath? settings = path

theorem scriptFrom_eq_ok_iff {options : Options} :
    scriptFrom options files = .ok out ↔
      ∃ text, FileSystem.read files options.input = .ok text ∧
        Document.render options.dialect text = .ok out := by
  simp only [scriptFrom, bind_eq_ok_iff, mapError_eq_ok_iff]

theorem askFor_iff : AskFor files arguments out path ↔
    ∃ options, readOptions arguments = .ok options ∧ scriptFrom options files = .ok out ∧
      options.output = path := by
  simp only [readOptions_eq_ok_iff, scriptFrom_eq_ok_iff]
  constructor
  · rintro ⟨input, rest, settings, text, rfl, hspell, htext, hout, rfl⟩
    refine ⟨_, ⟨input, rest, settings, rfl, hspell, rfl⟩, ⟨text, ?_, hout⟩, output_optionsOf ..⟩
    rwa [input_optionsOf]
  · rintro ⟨_, ⟨input, rest, settings, rfl, hspell, rfl⟩, ⟨text, htext, hout⟩, hpath⟩
    rw [input_optionsOf] at htext
    rw [output_optionsOf] at hpath
    exact ⟨input, rest, settings, text, rfl, hspell, htext, hout, hpath⟩

theorem exists_askFor {result : String × σ} (h : delivery arguments files = .ok result) :
    ∃ out path, AskFor files arguments out path := by
  obtain ⟨options, hoptions, h⟩ := bind_eq_ok_iff.1 h
  obtain ⟨out, hscript, -⟩ := bind_eq_ok_iff.1 h
  exact ⟨out, options.output, askFor_iff.2 ⟨options, hoptions, hscript, rfl⟩⟩

theorem delivery_of_askFor (h : AskFor files arguments out path) :
    delivery arguments files = placed path out files := by
  obtain ⟨options, hoptions, hscript, rfl⟩ := askFor_iff.1 h
  simp only [delivery, hoptions, hscript, bind, Except.bind]

/-! ### Runs that succeed -/

/-- Where the script of a run is, in the files that were there before. -/
inductive Delivered (Keeps : σ → String → Prop) (Apart : σ → String → String → Prop) (files : σ)
    (script : String) : Option String → Outcome σ → Prop where
  /-- On the standard output. -/
  | output {outcome : Outcome σ} (stdout : outcome.stdout = script)
      (unchanged : outcome.files = files) : Delivered Keeps Apart files script none outcome
  /-- Written to the path and nowhere else. The path has it if it keeps anything, and what is apart
  from it is as before. -/
  | file {path : String} {outcome : Outcome σ} (stdout : outcome.stdout = "")
      (written : FileSystem.write files path script = .ok outcome.files)
      (holds : Keeps files path → FileSystem.read outcome.files path = .ok script)
      (others : ∀ other, Apart files path other →
        FileSystem.read outcome.files other = FileSystem.read files other) :
      Delivered Keeps Apart files script (some path) outcome

theorem exit_eq_zero_iff :
    (run program arguments files).exit = 0 ↔ ∃ result, delivery arguments files = .ok result := by
  rw [run_eq]
  cases delivery arguments files <;> simp

theorem run_of_delivery {stdout : String} (h : delivery arguments files = .ok (stdout, after)) :
    run program arguments files = ⟨0, stdout, "", after⟩ := by
  rw [run_eq, h]

theorem placed_some_eq_ok_iff {target : String} {result : String × σ} :
    placed (some target) out files = .ok result ↔
      ∃ after, FileSystem.write files target out = .ok after ∧ result = ("", after) := by
  rw [placed]
  cases FileSystem.write files target out with
  | error error => simp [Except.mapError, Except.map]
  | ok after => simp [Except.mapError, Except.map, eq_comm]

/-- A run that has its script fails only if it cannot be written to the path. -/
theorem exit_eq_zero_of_askFor (h : AskFor files arguments out path) :
    (run program arguments files).exit = 0 ↔
      ∀ target, path = some target → ∃ after, FileSystem.write files target out = .ok after := by
  rw [exit_eq_zero_iff, delivery_of_askFor h]
  cases path with
  | none => simp [placed]
  | some target => simp [placed_some_eq_ok_iff]

theorem exit_eq_zero_iff_exists :
    (run program arguments files).exit = 0 ↔ ∃ out path, AskFor files arguments out path ∧
      ∀ target, path = some target → ∃ after, FileSystem.write files target out = .ok after := by
  constructor
  · intro hexit
    obtain ⟨result, hdelivery⟩ := exit_eq_zero_iff.1 hexit
    obtain ⟨out, path, hask⟩ := exists_askFor hdelivery
    exact ⟨out, path, hask, (exit_eq_zero_of_askFor hask).1 hexit⟩
  · rintro ⟨out, path, hask, hwrite⟩
    exact (exit_eq_zero_of_askFor hask).2 hwrite

theorem delivered_of_exit {Keeps : σ → String → Prop} {Apart : σ → String → String → Prop}
    (laws : FileSystem.Lawful Keeps Apart) (h : AskFor files arguments out path)
    (hexit : (run program arguments files).exit = 0) :
    Delivered Keeps Apart files out path (run program arguments files) := by
  obtain ⟨result, hdelivery⟩ := exit_eq_zero_iff.1 hexit
  have hplaced : placed path out files = .ok result := delivery_of_askFor h ▸ hdelivery
  rw [run_of_delivery hdelivery]
  cases path with
  | none =>
    cases hplaced
    exact .output rfl rfl
  | some target =>
    obtain ⟨after, hwrite, rfl⟩ := placed_some_eq_ok_iff.1 hplaced
    exact .file rfl hwrite (laws.read_write · hwrite) fun _ hapart => laws.read_other hapart hwrite

/-! ### Runs that fail, and settings that change places -/

theorem unchanged_of_exit (h : (run program arguments files).exit ≠ 0) :
    (run program arguments files).stdout = "" ∧ (run program arguments files).files = files := by
  rw [ne_eq, exit_eq_zero_iff] at h
  rw [run_eq]
  cases hdelivery : delivery arguments files with
  | error failure => exact ⟨rfl, rfl⟩
  | ok result => exact absurd ⟨result, hdelivery⟩ h

/-- A run depends on its arguments through the options only. -/
theorem run_congr {others : List String} (h : readOptions arguments = readOptions others) :
    run program arguments files = run program others files := by
  simp only [run_eq, delivery, h]

theorem optionsOf_swap {first second : Setting} (h : first.MayChangePlaces second)
    (front back : List Setting) (options : Options) :
    (front ++ first :: second :: back).foldl Setting.apply options =
      (front ++ second :: first :: back).foldl Setting.apply options := by
  simp only [List.foldl_append, List.foldl_cons, Setting.apply_comm h]

theorem run_swap {first second : Setting} (h : first.MayChangePlaces second) (input : String)
    (front back : List Setting) (rest : List String) :
    run program (input :: ((front ++ first :: second :: back).flatMap Setting.words ++ rest))
        files =
      run program (input :: ((front ++ second :: first :: back).flatMap Setting.words ++ rest))
        files := by
  apply run_congr
  rw [readOptions, readOptions, takeOptions_flatMap, takeOptions_flatMap,
    optionsOf_swap h front back]

/-! ### All or nothing -/

/-- A run that fails leaves nothing, on the standard output or in the files. One succeeds exactly
when a script is asked for and can be written to the path that it is to go to, and then has it in
one place, which the last output path decides. Arguments that are taken in spell settings, and in
front of anything else two settings may change places unless both are output paths or both are
versions. -/
theorem run_all_or_nothing {Keeps : σ → String → Prop} {Apart : σ → String → String → Prop}
    (laws : FileSystem.Lawful Keeps Apart) (program : String) (files : σ) :
    (∀ arguments, (run program arguments files).exit ≠ 0 →
      (run program arguments files).stdout = "" ∧ (run program arguments files).files = files) ∧
    (∀ arguments, (run program arguments files).exit = 0 ↔
      ∃ out path, AskFor files arguments out path ∧
        ∀ target, path = some target → ∃ after, FileSystem.write files target out = .ok after) ∧
    (∀ arguments out path, AskFor files arguments out path →
      (run program arguments files).exit = 0 →
        Delivered Keeps Apart files out path (run program arguments files)) ∧
    (∀ arguments, (∃ options, readOptions arguments = .ok options) ↔
      ∃ input rest settings, arguments = input :: rest ∧ Spell settings rest) ∧
    ∀ input front first second back rest, Setting.MayChangePlaces first second →
      run program (input :: ((front ++ first :: second :: back).flatMap Setting.words ++ rest))
          files =
        run program (input :: ((front ++ second :: first :: back).flatMap Setting.words ++ rest))
          files := by
  refine ⟨fun _ => unchanged_of_exit, fun _ => exit_eq_zero_iff_exists,
    fun _ _ _ => delivered_of_exit laws, fun arguments => ?_,
    fun input front _ _ back rest h => run_swap h input front back rest⟩
  simp only [readOptions_eq_ok_iff]
  constructor
  · rintro ⟨_, input, rest, settings, harguments, hspell, -⟩
    exact ⟨input, rest, settings, harguments, hspell⟩
  · rintro ⟨input, rest, settings, harguments, hspell⟩
    exact ⟨_, input, rest, settings, harguments, hspell, rfl⟩

/-- Runs that meet a bad version behind an output path, an input that is no text, no input, and a
path that cannot be written to; one with two output paths and an option that is not finished, and
the settings of that one in another order. -/
theorem run_all_or_nothing_sequence :
    let document := "\x7b\"kind\": \"create_sequence\", \"name\": \"S\"\x7d"
    let out := "CREATE OR ALTER SEQUENCE \"S\" START WITH 0 INCREMENT BY 1;\n"
    let files : Directory :=
      .ofList [("binary.json", .undecodable), ("sequence.json", .text document)]
    let failing := [["sequence.json", "-o", "s.sql", "--dialect-version", "latest"],
      ["binary.json", "-o", "s.sql"], ["missing.json", "-o", "s.sql"], ["sequence.json", "-o", ""]]
    let first := ["sequence.json", "-o", "old.sql", "--output", "s.sql", "--quote-all", "-o"]
    let second := ["sequence.json", "-o", "old.sql", "--quote-all", "--output", "s.sql", "-o"]
    (∀ arguments ∈ failing, (run "schemascript" arguments files).exit = 1 ∧
      (run "schemascript" arguments files).stdout = "" ∧
      (run "schemascript" arguments files).files = files) ∧
    (∃ options, readOptions second = .ok options) ∧
    AskFor files first out (some "s.sql") ∧ (run "schemascript" first files).exit = 0 ∧
    Delivered (fun _ _ => True) (fun _ path other => other ≠ path) files out (some "s.sql")
      (run "schemascript" first files) ∧
    FileSystem.read (run "schemascript" first files).files "s.sql" = .ok out ∧
    run "schemascript" first files = run "schemascript" second files := by
  intro document out files failing first second
  obtain ⟨hfails, hsucceeds, hdelivers, htaken, hswap⟩ :=
    run_all_or_nothing Directory.lawful "schemascript" files
  have hfailing : ∀ arguments ∈ failing, (run "schemascript" arguments files).exit = 1 := by
    decide +kernel
  have hask : AskFor files first out (some "s.sql") := by
    refine ⟨_, _, [.output false "old.sql", .output true "s.sql", .quoteAll], document, rfl,
      ⟨["-o"], rfl, .inr (.inl rfl)⟩, by decide +kernel, ?_, rfl⟩
    exact (mapError_eq_ok_iff (f := DocumentError.message)).1 (by decide +kernel)
  have hfirst : (run "schemascript" first files).exit = 0 := by
    refine (hsucceeds first).2 ⟨out, _, hask, fun target htarget => ?_⟩
    cases htarget
    exact ⟨files.insert "s.sql" (.text out), by decide +kernel⟩
  have hdelivered := hdelivers first _ _ hask hfirst
  have hspell : Spell [.output false "old.sql", .quoteAll, .output true "s.sql"] second.tail :=
    ⟨["-o"], rfl, .inr (.inl rfl)⟩
  refine ⟨fun arguments harguments => ?_, (htaken second).2 ⟨_, _, _, rfl, hspell⟩, hask, hfirst,
    hdelivered, ?_,
    hswap _ [.output false "old.sql"] (.output true "s.sql") .quoteAll [] ["-o"] trivial⟩
  · have hexit := hfailing arguments harguments
    exact ⟨hexit, hfails arguments (by rw [hexit]; decide)⟩
  · cases hdelivered with
    | file stdout written holds others => exact holds trivial

end CommandLine

end SchemaScript
