import SchemaScript.Proofs.Text.Compositional
import SchemaScript.Proofs.Text.Quotation

/-! Lists taken apart. A text is cut at the separators that stand outside quotations; each mark opens
one or closes it, so that a doubled mark does both. Texts that no separator cuts, put together with
separators in between, are the pieces again. -/

namespace SchemaScript.Text

/-- More characters in front of the first piece. -/
def extend (front : List Char) (pieces : List (List Char)) : List (List Char) :=
  pieces.modifyHead (front ++ ·)

/-- The pieces of a text that begins inside a quotation or outside. -/
def piecesFrom (mark separator : Char) : Bool → List Char → List (List Char)
  | _, [] => [[]]
  | inside, c :: rest =>
    if c = mark then extend [c] (piecesFrom mark separator (!inside) rest)
    else if c = separator ∧ inside = false then [] :: piecesFrom mark separator false rest
    else extend [c] (piecesFrom mark separator inside rest)

/-- What stands between the separators outside quotations; one piece more than there are of them. -/
def pieces (mark separator : Char) (text : String) : List String :=
  (piecesFrom mark separator false text.toList).map .ofList

/-- What a piece stands for: the text of its quotation if it begins with a mark, and itself if not. -/
def unquoted (mark : Char) (piece : String) : Option String :=
  if piece.toList.head? = some mark then
    match readQuoted mark piece.toList with
    | some (text, []) => some (.ofList text)
    | _ => none
  else some piece

variable {mark separator : Char} {text : String}

theorem unquoted_quotedBy (mark : Char) (text : String) :
    unquoted mark (quotedBy mark text) = some text := by
  have hread : readQuoted mark (quotedBy mark text).toList = some (text.toList, []) :=
    readQuoted_eq_some_iff.2 ⟨by simp, by simp⟩
  have hhead : (quotedBy mark text).toList.head? = some mark := by simp [quotedBy]
  rw [unquoted, if_pos hhead, hread]
  exact congrArg some String.ofList_toList

theorem unquoted_of_head?_ne (h : text.toList.head? ≠ some mark) : unquoted mark text = some text :=
  if_neg h

/-! ### Texts in one piece -/

@[simp] theorem extend_nil (pieces : List (List Char)) : extend [] pieces = pieces := by
  cases pieces <;> rfl

@[simp] theorem extend_cons (front piece : List Char) (pieces : List (List Char)) :
    extend front (piece :: pieces) = (front ++ piece) :: pieces := rfl

theorem extend_append (first second : List Char) (pieces : List (List Char)) :
    extend (first ++ second) pieces = extend first (extend second pieces) := by
  cases pieces with
  | nil => rfl
  | cons piece pieces => simp

/-- The text goes to the first piece of what follows it, as a whole. -/
def Uncut (mark separator : Char) (text : String) : Prop :=
  ∀ rest, piecesFrom mark separator false (text.toList ++ rest) =
    extend text.toList (piecesFrom mark separator false rest)

theorem uncut_compositional : Compositional (Uncut mark separator) where
  empty rest := by simp
  append hfirst hsecond rest := by
    rw [String.toList_append, List.append_assoc, hfirst, hsecond, extend_append]

theorem uncut_of_notMem (hmark : mark ∉ text.toList) (hseparator : separator ∉ text.toList) :
    Uncut mark separator text := by
  rw [Uncut]
  generalize text.toList = front at hmark hseparator ⊢
  intro rest
  induction front with
  | nil => simp
  | cons c front ih =>
    rw [List.mem_cons, not_or] at hmark hseparator
    have hcut : ¬(c = separator ∧ false = false) := fun h => hseparator.1 h.1.symm
    rw [List.cons_append, piecesFrom, if_neg (Ne.symm hmark.1), if_neg hcut,
      ih hmark.2 hseparator.2, ← extend_append, List.singleton_append]

/-- Inside a quotation nothing is cut off before the mark that closes it. -/
theorem piecesFrom_doubleMarks (text rest : List Char) :
    piecesFrom mark separator true (doubleMarks mark text ++ mark :: rest) =
      extend (doubleMarks mark text ++ [mark]) (piecesFrom mark separator false rest) := by
  induction text with
  | nil => rw [doubleMarks, List.nil_append, List.nil_append, piecesFrom, if_pos rfl, Bool.not_true]
  | cons c text ih =>
    by_cases hc : c = mark
    · -- The first of the two marks closes the quotation, and the second opens it again.
      subst hc
      rw [doubleMarks, if_pos rfl, List.cons_append, List.cons_append, piecesFrom, if_pos rfl,
        piecesFrom, if_pos rfl, Bool.not_not, ih, ← extend_append, ← extend_append]
      rfl
    · have hcut : ¬(c = separator ∧ true = false) := by simp
      rw [doubleMarks, if_neg hc, List.cons_append, piecesFrom, if_neg hc, if_neg hcut, ih,
        ← extend_append]
      rfl

theorem uncut_quotedBy (mark separator : Char) (text : String) :
    Uncut mark separator (quotedBy mark text) := by
  intro rest
  rw [toList_quotedBy_append, piecesFrom, if_pos rfl, Bool.not_false, piecesFrom_doubleMarks,
    ← extend_append, quotedBy, String.toList_ofList, List.singleton_append]

/-! ### Texts put together -/

theorem Uncut.pieces_eq (h : Uncut mark separator text) : pieces mark separator text = [text] := by
  have hrest := h []
  rw [List.append_nil] at hrest
  rw [pieces, hrest, piecesFrom, extend_cons, List.append_nil, List.map_singleton,
    String.ofList_toList]

theorem Uncut.pieces_append (h : Uncut mark separator text) (hseparator : separator ≠ mark)
    (rest : String) :
    pieces mark separator (text ++ (.singleton separator ++ rest)) =
      text :: pieces mark separator rest := by
  rw [pieces, String.toList_append, h, String.toList_append, String.toList_singleton,
    List.singleton_append, piecesFrom, if_neg hseparator, if_pos ⟨rfl, rfl⟩, extend_cons,
    List.append_nil, List.map_cons, String.ofList_toList, pieces]

theorem pieces_separatedBy (hseparator : separator ≠ mark) {parts : List String} (hne : parts ≠ [])
    (h : ∀ part ∈ parts, Uncut mark separator part) :
    pieces mark separator (separatedBy (.singleton separator) parts) = parts := by
  induction parts with
  | nil => contradiction
  | cons part rest ih =>
    obtain ⟨hpart, hrest⟩ := List.forall_mem_cons.1 h
    cases rest with
    | nil => exact hpart.pieces_eq
    | cons next rest =>
      rw [separatedBy, String.append_assoc, hpart.pieces_append hseparator,
        ih (List.cons_ne_nil next rest) hrest]

example : pieces '"' ',' "A,\"B,\"\"C\",,D" = ["A", "\"B,\"\"C\"", "", "D"] := by decide +kernel

end SchemaScript.Text
