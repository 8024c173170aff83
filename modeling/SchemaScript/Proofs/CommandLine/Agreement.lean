import SchemaScript.Proofs.CommandLine.Delivery
import SchemaScript.Proofs.CommandLine.Settings
import SchemaScript.Proofs.Text.Blank
import SchemaScript.Proofs.Text.Numeral

/-! The command line beside the function on documents. For the version that stands in digits among
the options, and for no version at all, a run says what the function gives: the script on the
standard output, or the message behind the path of the document. -/

namespace SchemaScript

/-! ### Versions in digits -/

theorem Dialect.version?_repr (version : UInt32) :
    Dialect.version? (Nat.repr version.toNat) = some version := by
  have hblank : ∀ c ∈ (Nat.repr version.toNat).toList, Text.isBlankChar c = false :=
    fun c hc => Text.isBlankChar_of_isDigit (Text.isDigit_of_mem_repr hc)
  have hpoint : (Nat.repr version.toNat).toList.takeWhile (· ≠ '.') =
      (Nat.repr version.toNat).toList := by
    refine List.takeWhile_eq_self_iff.2 fun c hc => ?_
    have hdigit := Text.isDigit_of_mem_repr hc
    rw [decide_eq_true_eq]
    rintro rfl
    contradiction
  have hbound : version.toNat < Text.numeralBound := version.toNat_lt
  rw [Dialect.version?, Text.trim_of_forall hblank, hpoint, String.ofList_toList,
    Text.numeral?_repr hbound, Option.map_some, UInt32.ofNat_toNat]

namespace CommandLine

/-! ### Runs for a version -/

def versionOption : Option UInt32 → List String
  | none => []
  | some version => ["--dialect-version", Nat.repr version.toNat]

/-- The options ask for nothing but the rendering that the function does. -/
theorem readOptions_versionOption (path : String) (version : Option UInt32) :
    ∃ dialect, readOptions (path :: versionOption version) = .ok { input := path, dialect } ∧
      ∀ text, Document.renderFor version text =
        (Document.render dialect text).mapError (·.message) := by
  cases version with
  | none => exact ⟨{}, rfl, fun _ => rfl⟩
  | some version =>
    have hspell : Spell [.version _ version (Dialect.version?_repr version)]
        (versionOption (some version)) := ⟨[], rfl, .inl rfl⟩
    exact ⟨{ version }, readOptions_of_spell hspell path, fun _ => rfl⟩

/-- A run for a version says what the function gives for it, and leaves the files alone. -/
theorem run_eq_renderFor {σ : Type} [FileSystem σ] {files : σ} {path text : String}
    (h : FileSystem.read files path = .ok text) (program : String) (version : Option UInt32) :
    (∀ out, Document.renderFor version text = .ok out →
      run program (path :: versionOption version) files = ⟨0, out, "", files⟩) ∧
    ∀ message, Document.renderFor version text = .error message →
      run program (path :: versionOption version) files =
        ⟨1, "", path ++ ": " ++ message ++ "\n", files⟩ := by
  obtain ⟨dialect, hoptions, hrender⟩ := readOptions_versionOption path version
  have hdelivery : delivery (path :: versionOption version) files =
      (Document.render dialect text).mapError (.unrenderable path) >>= fun out =>
        .ok (out, files) := by
    rw [delivery, hoptions]
    show (scriptFrom { input := path, dialect } files >>= fun out => .ok (out, files)) = _
    rw [scriptFrom, h]
    rfl
  rw [hrender, run_eq, hdelivery]
  cases Document.render dialect text with
  | ok out =>
    refine ⟨fun _ h => ?_, fun _ h => (nomatch h)⟩
    cases h
    rfl
  | error error =>
    refine ⟨fun _ h => (nomatch h), fun _ h => ?_⟩
    cases h
    rfl

/-- A sequence for an old server, and a domain that has no name. -/
theorem run_eq_renderFor_sequence :
    let sequence := "\x7b\"kind\": \"create_sequence\", \"name\": \"S\"\x7d"
    let domain := "\x7b\"kind\": \"create_domain\"\x7d"
    let files : Directory :=
      .ofList [("domain.json", .text domain), ("sequence.json", .text sequence)]
    FileSystem.read files "sequence.json" = .ok sequence ∧
    run "schemascript" ["sequence.json", "--dialect-version", "2"] files =
      ⟨0, "CREATE SEQUENCE S;\nALTER SEQUENCE S RESTART WITH 1;\n", "", files⟩ ∧
    FileSystem.read files "domain.json" = .ok domain ∧
    run "schemascript" ["domain.json"] files =
      ⟨1, "", "domain.json" ++ ": " ++ "Invalid domain descriptor: name is empty" ++ "\n",
        files⟩ := by
  intro sequence domain files
  have hsequence : FileSystem.read files "sequence.json" = .ok sequence := by decide +kernel
  have hdomain : FileSystem.read files "domain.json" = .ok domain := by decide +kernel
  obtain ⟨hscript, -⟩ := run_eq_renderFor hsequence "schemascript" (some 2)
  obtain ⟨-, hmessage⟩ := run_eq_renderFor hdomain "schemascript" none
  exact ⟨hsequence, hscript _ (by decide +kernel), hdomain, hmessage _ (by decide +kernel)⟩

end CommandLine

end SchemaScript
