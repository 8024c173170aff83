import SchemaScript.CommandLine
import SchemaScript.Proofs.StatementError

/-! What the options of a command line say. The arguments that are taken in are the words of a list
of settings, behind which one option may stand whose value is missing; what they say is what the
settings do one after another. Two settings that are not of one kind with a value do the same in
either order. -/

namespace SchemaScript.CommandLine

/-! ### Settings -/

/-- An option that is complete, with its value if it takes one. -/
inductive Setting where
  | output (isLong : Bool) (path : String)
  | version (text : String) (number : UInt32) (stands : Dialect.version? text = some number)
  | quoteAll
  | verbose (isLong : Bool)

namespace Setting

def words : Setting → List String
  | output isLong path => [if isLong then "--output" else "-o", path]
  | version text _ _ => ["--dialect-version", text]
  | quoteAll => ["--quote-all"]
  | verbose isLong => [if isLong then "--verbose" else "-v"]

def apply (options : Options) : Setting → Options
  | output _ path => { options with output := some path }
  | version _ number _ => { options with dialect := { options.dialect with version := number } }
  | quoteAll => { options with dialect := { options.dialect with alwaysQuote := true } }
  | verbose _ => { options with verbose := true }

def path? : Setting → Option String
  | output _ path => some path
  | _ => none

/-- All but two output paths and two versions, of which the last one counts. -/
def MayChangePlaces : Setting → Setting → Prop
  | output .., output .. => False
  | version .., version .. => False
  | _, _ => True

theorem apply_comm {first second : Setting} (h : MayChangePlaces first second) (options : Options) :
    second.apply (first.apply options) = first.apply (second.apply options) := by
  cases first with
  | output => cases second with
    | output => exact h.elim
    | version | quoteAll | verbose => rfl
  | version => cases second with
    | version => exact h.elim
    | output | quoteAll | verbose => rfl
  | quoteAll => cases second <;> rfl
  | verbose => cases second <;> rfl

theorem output_apply (setting : Setting) (options : Options) :
    (setting.apply options).output = setting.path?.or options.output := by
  cases setting <;> rfl

end Setting

/-- The options after all settings, in order. -/
def optionsOf (input : String) (settings : List Setting) : Options :=
  settings.foldl Setting.apply { input }

/-- The last path that the script is to go to. -/
def outputPath? (settings : List Setting) : Option String :=
  (settings.filterMap Setting.path?).getLast?

theorem output_foldl (settings : List Setting) (options : Options) :
    (settings.foldl Setting.apply options).output = (outputPath? settings).or options.output := by
  induction settings generalizing options with
  | nil => rfl
  | cons setting rest ih =>
    rw [List.foldl_cons, ih, setting.output_apply, ← Option.or_assoc]
    congr 1
    cases hpath : setting.path? with
    | none => rw [outputPath?, outputPath?, List.filterMap_cons_none hpath, Option.or_none]
    | some path =>
      rw [outputPath?, outputPath?, List.filterMap_cons_some hpath, List.getLast?_cons]
      cases (rest.filterMap Setting.path?).getLast? <;> rfl

theorem input_foldl (settings : List Setting) (options : Options) :
    (settings.foldl Setting.apply options).input = options.input := by
  induction settings generalizing options with
  | nil => rfl
  | cons setting rest ih =>
    rw [List.foldl_cons, ih]
    cases setting <;> rfl

theorem output_optionsOf (input : String) (settings : List Setting) :
    (optionsOf input settings).output = outputPath? settings := by
  rw [optionsOf, output_foldl, Option.or_none]

theorem input_optionsOf (input : String) (settings : List Setting) :
    (optionsOf input settings).input = input :=
  input_foldl settings _

/-! ### Words -/

/-- An option that takes a value and stands at the end without one, or nothing. -/
def IsUnfinished (rest : List String) : Prop :=
  rest = [] ∨ rest = ["-o"] ∨ rest = ["--output"] ∨ rest = ["--dialect-version"]

theorem readVersion_eq_ok_iff {text : String} {number : UInt32} :
    readVersion text = .ok number ↔ Dialect.version? text = some number := by
  unfold readVersion
  cases Dialect.version? text <;> simp

theorem takeOptions_words (setting : Setting) (options : Options) (rest : List String) :
    takeOptions options (setting.words ++ rest) = takeOptions (setting.apply options) rest := by
  rw [takeOptions.eq_def options]
  cases setting with
  | output isLong path => cases isLong <;> simp [Setting.words, Setting.apply]
  | version text number stands =>
    simp [Setting.words, Setting.apply, readVersion_eq_ok_iff.2 stands, bind, Except.bind]
  | quoteAll => simp [Setting.words, Setting.apply]
  | verbose isLong => cases isLong <;> simp [Setting.words, Setting.apply]

/-- Settings at the front are taken in first, whatever stands behind them. -/
theorem takeOptions_flatMap (settings : List Setting) (options : Options) (rest : List String) :
    takeOptions options (settings.flatMap Setting.words ++ rest) =
      takeOptions (settings.foldl Setting.apply options) rest := by
  induction settings generalizing options with
  | nil => rfl
  | cons setting others ih =>
    rw [List.flatMap_cons, List.append_assoc, takeOptions_words, ih, List.foldl_cons]

theorem takeOptions_of_isUnfinished {rest : List String} (h : IsUnfinished rest)
    (options : Options) : takeOptions options rest = .ok options := by
  rcases h with rfl | rfl | rfl | rfl <;> simp [takeOptions]

/-- The arguments are the words of the settings, with at most an unfinished option behind them. -/
def Spell (settings : List Setting) (arguments : List String) : Prop :=
  ∃ rest, arguments = settings.flatMap Setting.words ++ rest ∧ IsUnfinished rest

theorem Spell.cons {settings : List Setting} {arguments : List String}
    (h : Spell settings arguments) (setting : Setting) :
    Spell (setting :: settings) (setting.words ++ arguments) := by
  obtain ⟨rest, rfl, hrest⟩ := h
  exact ⟨rest, by rw [List.flatMap_cons, List.append_assoc], hrest⟩

theorem exists_spell_of_takeOptions {options result : Options} {arguments : List String}
    (h : takeOptions options arguments = .ok result) :
    ∃ settings, Spell settings arguments ∧ result = settings.foldl Setting.apply options := by
  have hunfinished : ∀ (options : Options) {rest : List String}, IsUnfinished rest →
      ∃ settings, Spell settings rest ∧ options = settings.foldl Setting.apply options :=
    fun _ rest hrest => ⟨[], ⟨rest, rfl, hrest⟩, rfl⟩
  have hcons : ∀ (setting : Setting) {options : Options} {rest : List String},
      (∃ settings, Spell settings rest ∧
        result = settings.foldl Setting.apply (setting.apply options)) →
      ∃ settings, Spell settings (setting.words ++ rest) ∧
        result = settings.foldl Setting.apply options := by
    rintro setting options rest ⟨settings, hspell, hresult⟩
    exact ⟨setting :: settings, hspell.cons setting, hresult⟩
  fun_induction takeOptions options arguments with
  | case1 options =>
    cases h
    exact hunfinished _ (.inl rfl)
  | case2 options option houtput =>
    cases h
    rcases houtput with rfl | rfl
    · exact hunfinished _ (.inr (.inl rfl))
    · exact hunfinished _ (.inr (.inr (.inl rfl)))
  | case3 options option houtput path rest ih =>
    rcases houtput with rfl | rfl
    · exact hcons (.output false path) (ih h)
    · exact hcons (.output true path) (ih h)
  | case4 options =>
    cases h
    exact hunfinished _ (.inr (.inr (.inr rfl)))
  | case5 options text rest _ ih =>
    obtain ⟨number, hnumber, hrest⟩ := bind_eq_ok_iff.1 h
    exact hcons (.version text number (readVersion_eq_ok_iff.1 hnumber)) (ih number hrest)
  | case6 options rest _ _ ih => exact hcons .quoteAll (ih h)
  | case7 options option rest _ _ _ hverbose ih =>
    rcases hverbose with rfl | rfl
    · exact hcons (.verbose false) (ih h)
    · exact hcons (.verbose true) (ih h)
  | case8 => contradiction

theorem readOptions_of_spell {settings : List Setting} {arguments : List String}
    (h : Spell settings arguments) (input : String) :
    readOptions (input :: arguments) = .ok (optionsOf input settings) := by
  obtain ⟨rest, rfl, hrest⟩ := h
  rw [readOptions, takeOptions_flatMap, takeOptions_of_isUnfinished hrest, optionsOf]

/-- A command line is taken in when it has an input and spells settings behind it. -/
theorem readOptions_eq_ok_iff {arguments : List String} {options : Options} :
    readOptions arguments = .ok options ↔
      ∃ input rest settings, arguments = input :: rest ∧ Spell settings rest ∧
        options = optionsOf input settings := by
  constructor
  · intro h
    cases arguments with
    | nil => contradiction
    | cons input rest =>
      obtain ⟨settings, hspell, hoptions⟩ := exists_spell_of_takeOptions h
      exact ⟨input, rest, settings, rfl, hspell, hoptions⟩
  · rintro ⟨input, rest, settings, rfl, hspell, rfl⟩
    exact readOptions_of_spell hspell input

end SchemaScript.CommandLine
