/-! Texts put one after another, with or without a separator between neighbours. -/

namespace SchemaScript.Text

def concat (parts : List String) : String := parts.foldr (· ++ ·) ""

/-- The parts in order with `separator` between neighbours, and nowhere else. -/
def separatedBy (separator : String) : List String → String
  | [] => ""
  | [part] => part
  | part :: next :: rest => part ++ separator ++ separatedBy separator (next :: rest)

@[simp] theorem concat_nil : concat [] = "" := rfl

@[simp] theorem concat_cons (part : String) (rest : List String) :
    concat (part :: rest) = part ++ concat rest := rfl

theorem concat_append (first second : List String) :
    concat (first ++ second) = concat first ++ concat second := by
  induction first with
  | nil => simp
  | cons part rest ih => simp [ih, String.append_assoc]

/-- A separated list is its first part, then each further part behind a separator. -/
theorem separatedBy_cons (separator part : String) (rest : List String) :
    separatedBy separator (part :: rest) = part ++ concat (rest.map (separator ++ ·)) := by
  induction rest generalizing part with
  | nil => simp [separatedBy]
  | cons next rest ih => simp [separatedBy, ih, String.append_assoc]

theorem separatedBy_append (separator : String) {first second : List String} (hfirst : first ≠ [])
    (hsecond : second ≠ []) :
    separatedBy separator (first ++ second) =
      separatedBy separator first ++ separator ++ separatedBy separator second := by
  obtain ⟨part, rest, rfl⟩ := List.exists_cons_of_ne_nil hfirst
  obtain ⟨next, others, rfl⟩ := List.exists_cons_of_ne_nil hsecond
  simp [separatedBy_cons, concat_append, String.append_assoc]

end SchemaScript.Text
