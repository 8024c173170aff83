import SchemaScript.Text.Join
import SchemaScript.Text.Optional

/-! Properties of texts that hold of a whole when they hold of its parts, whichever of the ways the
parts are put together in. -/

namespace SchemaScript.Text

structure Compositional (P : String → Prop) : Prop where
  empty : P ""
  append : ∀ {first second : String}, P first → P second → P (first ++ second)

namespace Compositional

variable {P : String → Prop} (hP : Compositional P)
include hP

theorem concat {parts : List String} (h : ∀ part ∈ parts, P part) : P (Text.concat parts) := by
  induction parts with
  | nil => exact hP.empty
  | cons part rest ih =>
    obtain ⟨hpart, hrest⟩ := List.forall_mem_cons.1 h
    exact hP.append hpart (ih hrest)

theorem separatedBy {separator : String} (hseparator : P separator) {parts : List String}
    (h : ∀ part ∈ parts, P part) : P (Text.separatedBy separator parts) := by
  cases parts with
  | nil => exact hP.empty
  | cons part rest =>
    obtain ⟨hpart, hrest⟩ := List.forall_mem_cons.1 h
    rw [separatedBy_cons]
    refine hP.append hpart (hP.concat ?_)
    simpa using fun other hother => hP.append hseparator (hrest other hother)

theorem optional {α : Type} {write : α → String} {value : Option α}
    (h : ∀ v, value = some v → P (write v)) : P (Text.optional write value) := by
  cases value with
  | none => exact hP.empty
  | some v => exact h v rfl

theorem whenTrue {condition : Bool} {text : String} (h : P text) :
    P (Text.whenTrue condition text) := by
  cases condition with
  | false => exact hP.empty
  | true => exact h

end Compositional

end SchemaScript.Text
