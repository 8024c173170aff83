import SchemaScript.Comment
import SchemaScript.Proofs.Text.Quotation

/-! Comments read back from their statements. What a literal says can be read off it in front of
anything that does not begin with a quote, and a text that is not quoted in this way is no literal.
The literal of a comment stands in front of the delimiter, so the comment is read as it was given. -/

namespace SchemaScript

open Text

/-- The statement for an object, with the literal and what stands behind it put together. -/
theorem comment_eq {text : Option String} {value : String} (h : given text = some value)
    (hnull : value ≠ "NULL") (d : Dialect) (kind : ObjectKind) (name delimiter : String) :
    comment d kind name text delimiter =
      "COMMENT ON " ++ kind.keyword ++ " " ++ d.identifier name ++ " IS " ++
        (literal value ++ (delimiter ++ "\n")) := by
  have hvalue : commentValue (some value) = literal value := by
    rw [commentValue, given_eq_some.2 ⟨rfl, (given_eq_some.1 h).2⟩]
    exact if_neg hnull
  unfold comment commentStatement
  rw [h, optional_some, hvalue]
  simp only [String.append_assoc]

/-- The literal reader takes the literal of a text off the front of an input exactly when the input
is that literal and something that begins with no quote; and behind the name of its object, a comment
is read as the text it was made from, with the delimiter and the end of the line left. -/
theorem literal_readBack :
    (∀ text input after : String, readQuoted '\'' input.toList = some (text.toList, after.toList) ↔
      input = literal text ++ after ∧ after.toList.head? ≠ some '\'') ∧
    ∀ (d : Dialect) (kind : ObjectKind) (name text delimiter : String), isBlank text = false →
      text ≠ "NULL" → delimiter.toList.head? ≠ some '\'' →
      ∃ value, comment d kind name (some text) delimiter =
          "COMMENT ON " ++ kind.keyword ++ " " ++ d.identifier name ++ " IS " ++ value ∧
        readQuoted '\'' value.toList = some (text.toList, (delimiter ++ "\n").toList) := by
  have hread (text input after : String) :
      readQuoted '\'' input.toList = some (text.toList, after.toList) ↔
        input = literal text ++ after ∧ after.toList.head? ≠ some '\'' := by
    rw [readQuoted_eq_some_iff, ← String.toList_append, String.toList_inj, literal]
  refine ⟨hread, fun d kind name text delimiter hblank hnull hdelimiter => ?_⟩
  have hafter : (delimiter ++ "\n").toList.head? ≠ some '\'' := by
    rw [String.toList_append]
    exact head?_append_ne hdelimiter (by decide)
  have htext : given (some text) = some text := given_eq_some.2 ⟨rfl, hblank⟩
  exact ⟨_, comment_eq htext hnull d kind name delimiter, (hread text _ _).2 ⟨rfl, hafter⟩⟩

/-- A comment that begins and ends with quotes, on a view whose name has one, with a delimiter that
has one further on. -/
theorem literal_readBack_quotes :
    readQuoted '\'' "'''It''''s'''^'\n".toList = some ("'It''s'".toList, "^'\n".toList) ∧
      ∃ value, comment {} .view "it's" (some "'It''s'") "^'" =
          "COMMENT ON VIEW \"it's\" IS " ++ value ∧
        readQuoted '\'' value.toList = some ("'It''s'".toList, "^'\n".toList) := by
  obtain ⟨hread, hcomment⟩ := literal_readBack
  exact ⟨(hread "'It''s'" _ _).2 ⟨by decide, by decide⟩,
    hcomment {} .view "it's" "'It''s'" "^'" (by decide) (by decide) (by decide)⟩

end SchemaScript
