import SchemaScript.Proofs.Text.Compositional

/-! Texts made of whole lines: nothing at all, or something that ends a line. -/

namespace SchemaScript.Text

def EndsLine (text : String) : Prop := text.toList.getLast? = some '\n'

def IsLines (text : String) : Prop := text = "" ∨ EndsLine text

theorem EndsLine.isLines {text : String} (h : EndsLine text) : IsLines text := .inr h

theorem isLines_empty : IsLines "" := .inl rfl

theorem EndsLine.behind {text : String} (h : EndsLine text) (front : String) :
    EndsLine (front ++ text) := by
  rw [EndsLine, String.toList_append, List.getLast?_append, h, Option.some_or]

theorem EndsLine.append {front text : String} (hfront : EndsLine front) (h : IsLines text) :
    EndsLine (front ++ text) := by
  rcases h with rfl | h
  · rwa [String.append_empty]
  · exact h.behind front

theorem IsLines.append {front text : String} (hfront : IsLines front) (h : IsLines text) :
    IsLines (front ++ text) := by
  rcases hfront with rfl | hfront
  · rwa [String.empty_append]
  · exact (hfront.append h).isLines

theorem isLines_compositional : Compositional IsLines where
  empty := isLines_empty
  append := IsLines.append

theorem isLines_concat {parts : List String} (h : ∀ part ∈ parts, IsLines part) :
    IsLines (concat parts) :=
  isLines_compositional.concat h

theorem isLines_optional {α : Type} {write : α → String} (h : ∀ value, IsLines (write value))
    (value : Option α) : IsLines (optional write value) :=
  isLines_compositional.optional fun v _ => h v

theorem isLines_whenTrue {condition : Bool} {text : String} (h : IsLines text) :
    IsLines (whenTrue condition text) :=
  isLines_compositional.whenTrue h

end SchemaScript.Text
