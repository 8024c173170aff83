import SchemaScript.Dialect.Literal
import SchemaScript.Proofs.Text.Quotation
import SchemaScript.Text.Join
import SchemaScript.Text.Optional
import Mathlib.Data.List.Forall2

/-! Texts with their literals covered. A scan from the left puts one marker in place of each literal,
whatever is in it, and leaves everything else. Two texts are masked alike when they differ inside
literals only, and no text around them can tell them apart then: parts that are masked alike make
wholes that are, as long as no part begins with a quote, which could double the last one before it.
-/

namespace SchemaScript.Text

/-- A character of a masked text, or the marker that covers a literal. -/
inductive Masked where
  | char (c : Char)
  | literal
  deriving DecidableEq

theorem length_lt_of_readMarked {mark : Char} {rest text after : List Char}
    (h : readMarked mark rest = some (text, after)) : after.length < rest.length := by
  obtain ⟨rfl, -⟩ := eq_of_readMarked h
  simp only [List.length_append, List.length_cons]
  omega

/-- Every literal becomes one marker; a quote that opens no literal stays. -/
def mask : List Char → List Masked
  | [] => []
  | c :: rest =>
    if c = '\'' then
      match _ : readMarked '\'' rest with
      | some (_, after) => .literal :: mask after
      | none => .char c :: mask rest
    else .char c :: mask rest
termination_by text => text.length
decreasing_by
  · rename_i hread
    have hshorter := length_lt_of_readMarked hread
    simp only [List.length_cons]
    omega
  · exact Nat.lt_succ_self _
  · exact Nat.lt_succ_self _

theorem mask_append_of_notMem {front : List Char} (h : '\'' ∉ front) (rest : List Char) :
    mask (front ++ rest) = front.map Masked.char ++ mask rest := by
  induction front with
  | nil => rfl
  | cons c front ih =>
    rw [List.mem_cons, not_or] at h
    rw [List.cons_append, mask, if_neg (Ne.symm h.1), ih h.2, List.map_cons, List.cons_append]

theorem mask_literal_append (text : String) {after : List Char} (h : after.head? ≠ some '\'') :
    mask ((literal text).toList ++ after) = .literal :: mask after := by
  have hread := readMarked_doubleMarks '\'' text.toList after h
  rw [literal, toList_quotedBy_append, mask, if_pos rfl]
  split
  next hsome =>
    rw [hread] at hsome
    obtain ⟨rfl, rfl⟩ := Prod.mk.inj (Option.some.inj hsome)
    rfl
  next hnone =>
    rw [hread] at hnone
    contradiction

example : mask "A = 'it''s', B".toList =
    "A = ".toList.map .char ++ .literal :: ", B".toList.map .char := by
  decide +kernel

/-! ### Parts that are masked alike -/

/-- The texts are masked alike in front of whatever is masked alike and begins with no quote. -/
structure MaskedAlike (first second : String) : Prop where
  head?_first : first.toList.head? ≠ some '\''
  head?_second : second.toList.head? ≠ some '\''
  mask_append : ∀ {x y : List Char}, x.head? ≠ some '\'' → y.head? ≠ some '\'' → mask x = mask y →
    mask (first.toList ++ x) = mask (second.toList ++ y)

theorem head?_ne_of_notMem {c : Char} {text : List Char} (h : c ∉ text) : text.head? ≠ some c :=
  fun hhead => h (List.mem_of_head? hhead)

theorem MaskedAlike.mask_eq {first second : String} (h : MaskedAlike first second) :
    mask first.toList = mask second.toList := by
  simpa using h.mask_append (x := []) (y := []) (by simp) (by simp) rfl

theorem MaskedAlike.append {first second first' second' : String}
    (h : MaskedAlike first second) (h' : MaskedAlike first' second') :
    MaskedAlike (first ++ first') (second ++ second') where
  head?_first := by
    rw [String.toList_append]
    exact head?_append_ne h.head?_first h'.head?_first
  head?_second := by
    rw [String.toList_append]
    exact head?_append_ne h.head?_second h'.head?_second
  mask_append {x y} hx hy hxy := by
    -- The second parts go with the tails, which makes them the tails of the first parts.
    rw [String.toList_append, String.toList_append, List.append_assoc, List.append_assoc]
    exact h.mask_append (head?_append_ne h'.head?_first hx) (head?_append_ne h'.head?_second hy)
      (h'.mask_append hx hy hxy)

theorem maskedAlike_of_notMem {text : String} (h : '\'' ∉ text.toList) : MaskedAlike text text where
  head?_first := head?_ne_of_notMem h
  head?_second := head?_ne_of_notMem h
  mask_append _ _ hxy := by rw [mask_append_of_notMem h, mask_append_of_notMem h, hxy]

theorem maskedAlike_empty : MaskedAlike "" "" := maskedAlike_of_notMem (by simp)

/-- What a literal holds does not show, as long as something without quotes stands before it. -/
theorem maskedAlike_literal {front : String} (hne : front ≠ "") (hfront : '\'' ∉ front.toList)
    (first second : String) : MaskedAlike (front ++ literal first) (front ++ literal second) := by
  have hhead (text : String) : (front ++ literal text).toList.head? ≠ some '\'' := by
    rw [String.toList_append, List.head?_append_of_ne_nil _ (by simpa using hne)]
    exact head?_ne_of_notMem hfront
  refine ⟨hhead first, hhead second, fun {x y} hx hy hxy => ?_⟩
  rw [String.toList_append, String.toList_append, List.append_assoc, List.append_assoc,
    mask_append_of_notMem hfront, mask_append_of_notMem hfront, mask_literal_append _ hx,
    mask_literal_append _ hy, hxy]

theorem maskedAlike_concat {first second : List String}
    (h : List.Forall₂ MaskedAlike first second) : MaskedAlike (concat first) (concat second) := by
  induction h with
  | nil => exact maskedAlike_empty
  | cons hpart _ ih => exact hpart.append ih

theorem maskedAlike_separatedBy {separator : String} (hseparator : '\'' ∉ separator.toList)
    {first second : List String} (h : List.Forall₂ MaskedAlike first second) :
    MaskedAlike (separatedBy separator first) (separatedBy separator second) := by
  cases h with
  | nil => exact maskedAlike_empty
  | cons hpart hrest =>
    rw [separatedBy_cons, separatedBy_cons]
    refine hpart.append (maskedAlike_concat ?_)
    rw [List.forall₂_map_left_iff, List.forall₂_map_right_iff]
    exact hrest.imp fun _ _ halike => (maskedAlike_of_notMem hseparator).append halike

/-- Two values are there together or not at all. -/
theorem maskedAlike_optional {α : Type} {write : α → String} {first second : Option α}
    (hsome : first.isSome = second.isSome)
    (h : ∀ v w, first = some v → second = some w → MaskedAlike (write v) (write w)) :
    MaskedAlike (optional write first) (optional write second) := by
  cases first <;> cases second
  · exact maskedAlike_empty
  · contradiction
  · contradiction
  · exact h _ _ rfl rfl

end SchemaScript.Text
