import SchemaScript.Proofs.Dialect.Identifier
import SchemaScript.Proofs.Dialect.Value
import SchemaScript.Proofs.Text.Balanced

/-! Identifiers and values in statements are balanced, whatever is in them: quotes are doubled inside
quotes. What comes with quotes, and a value that stands for itself, is written as it is. -/

namespace SchemaScript

open Text

theorem balanced_literal (text : String) : Balanced (literal text) :=
  literal_isMarkedBy.balanced_quotedBy text

/-! ### Identifiers -/

namespace Dialect

variable {d : Dialect} {name : String}

theorem isOrdinary_of_isSafeChar {c : Char} (h : isSafeChar c = true) : IsOrdinary c := by
  refine ⟨?_, ?_, ?_, ?_⟩ <;>
    · rintro rfl
      exact absurd h (by decide)

theorem balanced_of_isRegular (h : isRegular name = true) : Balanced name :=
  balanced_of_isOrdinary fun c hc => isOrdinary_of_isSafeChar (isSafeChar_of_isRegular h c hc)

/-- A name that does not look quoted is balanced once it stands in a statement. -/
theorem balanced_identifier (hquote : d.quote = '"') (h : d.isQuoted name = false) :
    Balanced (d.identifier name) := by
  unfold identifier
  split
  next => exact balanced_empty
  rw [h, if_neg (by decide)]
  split
  next hsafe =>
    rw [isSafeUnquoted, Bool.and_eq_true, Bool.and_eq_true] at hsafe
    exact balanced_of_isRegular hsafe.2.1
  next =>
    rw [hquote]
    exact name_isMarkedBy.balanced_quotedBy name

theorem balanced_identifiers (hquote : d.quote = '"') {names : List String}
    (h : ∀ name ∈ names, d.isQuoted name = false) : Balanced (d.identifiers names) := by
  have hcomma : Balanced "," := rfl
  apply balanced_separatedBy hcomma
  intro part hpart
  obtain ⟨name, hname, rfl⟩ := List.mem_map.1 hpart
  exact balanced_identifier hquote (h name hname)

end Dialect

/-! ### Values -/

/-- A value is balanced, as long as one that is written as it came was so already. -/
theorem balanced_valueText {value : String} {code : TypeCode}
    (h : valueText value code = trim value → Balanced value) :
    Balanced (valueText value code) := by
  have hwritten := valueText_writtenAs value code
  generalize valueText value code = token at h hwritten ⊢
  cases hwritten with
  | null => rfl
  | asLiteral => exact (h rfl).trim
  | sessionVariable hword =>
    have hall : ∀ word ∈ contextVariables, Balanced word := by decide
    exact hall token hword
  | quoted => exact balanced_literal value
  | raw => exact (h rfl).trim

end SchemaScript
