import SchemaScript.Proofs.Text.Blank
import SchemaScript.Proofs.Text.Compositional
import SchemaScript.Proofs.Text.Numeral
import SchemaScript.Text.Quoted

/-! Texts whose quotes and parentheses match. A scan passes over the characters of a text, in which a
single quote begins or ends a literal, a double quote begins or ends a name, and parentheses count
outside both. Balanced texts may be put one behind another, and between parentheses. -/

namespace SchemaScript.Text

/-! ### Scanning -/

/-- What the scan is inside of. -/
inductive Region where
  | outside
  | literal
  | name
  deriving DecidableEq, Repr

structure Scan where
  region : Region := .outside
  /-- How many parentheses are open. -/
  depth : Nat := 0
  deriving DecidableEq, Repr

namespace Scan

/-- Passes over one character, unless it closes a parenthesis that is not open. -/
def next (s : Scan) (c : Char) : Option Scan :=
  match s.region with
  | .outside =>
    if c = '\'' then some { s with region := .literal }
    else if c = '"' then some { s with region := .name }
    else if c = '(' then some { s with depth := s.depth + 1 }
    else if c = ')' then if s.depth = 0 then none else some { s with depth := s.depth - 1 }
    else some s
  | .literal => some (if c = '\'' then { s with region := .outside } else s)
  | .name => some (if c = '"' then { s with region := .outside } else s)

def run (s : Scan) (text : List Char) : Option Scan := text.foldlM next s

def deeper (s : Scan) (k : Nat) : Scan := { s with depth := s.depth + k }

theorem run_cons (s : Scan) (c : Char) (rest : List Char) :
    s.run (c :: rest) = (s.next c).bind (·.run rest) := List.foldlM_cons

theorem run_append (s : Scan) (first second : List Char) :
    s.run (first ++ second) = (s.run first).bind (·.run second) := List.foldlM_append

theorem next_deeper {s t : Scan} {c : Char} (h : s.next c = some t) (k : Nat) :
    (s.deeper k).next c = some (t.deeper k) := by
  obtain ⟨region, depth⟩ := s
  cases region with
  | outside =>
    by_cases hclose : c = ')'
    · subst hclose
      have hnext : ∀ n, next ⟨.outside, n⟩ ')' = if n = 0 then none else some ⟨.outside, n - 1⟩ :=
        fun _ => rfl
      rw [hnext] at h
      split at h
      next => contradiction
      next hdepth =>
        obtain rfl := Option.some.inj h
        have hopen : ¬depth + k = 0 := by omega
        have hless : depth + k - 1 = depth - 1 + k := by omega
        simp only [deeper, hnext, if_neg hopen, hless]
    · simp only [next, if_neg hclose, deeper] at h ⊢
      split at h
      next hsingle =>
        obtain rfl := Option.some.inj h
        rw [if_pos hsingle]
      next hsingle =>
        rw [if_neg hsingle]
        split at h
        next hdouble =>
          obtain rfl := Option.some.inj h
          rw [if_pos hdouble]
        next hdouble =>
          rw [if_neg hdouble]
          split at h
          next hopen =>
            obtain rfl := Option.some.inj h
            rw [if_pos hopen, Nat.add_right_comm]
          next hopen =>
            obtain rfl := Option.some.inj h
            rw [if_neg hopen]
  | literal =>
    obtain rfl := Option.some.inj h
    simp only [next, deeper]
    split <;> rfl
  | name =>
    obtain rfl := Option.some.inj h
    simp only [next, deeper]
    split <;> rfl

/-- With more parentheses open before a text, as many more are open behind it. -/
theorem run_deeper {s t : Scan} {text : List Char} (h : s.run text = some t) (k : Nat) :
    (s.deeper k).run text = some (t.deeper k) := by
  induction text generalizing s with
  | nil =>
    obtain rfl : s = t := Option.some.inj h
    rfl
  | cons c rest ih =>
    rw [run_cons, Option.bind_eq_some_iff] at h
    obtain ⟨middle, hnext, hrest⟩ := h
    rw [run_cons, next_deeper hnext, Option.bind_some, ih hrest]

end Scan

/-- A scan of the text from outside ends outside, with `n` parentheses open where there were `m`. -/
def Takes (m n : Nat) (text : String) : Prop :=
  Scan.run ⟨.outside, m⟩ text.toList = some ⟨.outside, n⟩

instance (m n : Nat) (text : String) : Decidable (Takes m n text) :=
  inferInstanceAs (Decidable (_ = _))

/-- No parenthesis is closed before it is opened, and nothing is open at the end. -/
abbrev Balanced (text : String) : Prop := Takes 0 0 text

variable {first second text : String} {m n k : Nat}

theorem Takes.append (hfirst : Takes m n first) (hsecond : Takes n k second) :
    Takes m k (first ++ second) := by
  rw [Takes] at hfirst
  rw [Takes, String.toList_append, Scan.run_append, hfirst, Option.bind_some]
  exact hsecond

theorem Balanced.takes (h : Balanced text) (n : Nat) : Takes n n text := by
  have hdeeper := Scan.run_deeper h n
  simpa [Takes, Scan.deeper] using hdeeper

theorem balanced_empty : Balanced "" := rfl

theorem Balanced.append (hfirst : Balanced first) (hsecond : Balanced second) :
    Balanced (first ++ second) :=
  Takes.append hfirst hsecond

/-- A text with an opening parenthesis before it and the closing one behind it. -/
theorem Balanced.between {opening closing : String} (h : Balanced text)
    (hopening : Takes 0 1 opening) (hclosing : Takes 1 0 closing) :
    Balanced (opening ++ text ++ closing) :=
  (hopening.append (h.takes 1)).append hclosing

theorem balanced_compositional : Compositional Balanced where
  empty := balanced_empty
  append := Balanced.append

theorem balanced_concat {parts : List String} (h : ∀ part ∈ parts, Balanced part) :
    Balanced (concat parts) :=
  balanced_compositional.concat h

theorem balanced_separatedBy {separator : String} (hseparator : Balanced separator)
    {parts : List String} (h : ∀ part ∈ parts, Balanced part) :
    Balanced (separatedBy separator parts) :=
  balanced_compositional.separatedBy hseparator h

theorem balanced_optional {α : Type} {write : α → String} {value : Option α}
    (h : ∀ v, value = some v → Balanced (write v)) : Balanced (optional write value) :=
  balanced_compositional.optional h

theorem balanced_whenTrue {condition : Bool} (h : Balanced text) :
    Balanced (whenTrue condition text) :=
  balanced_compositional.whenTrue h

/-! ### Ordinary characters -/

/-- Neither a quote nor a parenthesis. -/
def IsOrdinary (c : Char) : Prop := c ≠ '\'' ∧ c ≠ '"' ∧ c ≠ '(' ∧ c ≠ ')'

instance (c : Char) : Decidable (IsOrdinary c) := inferInstanceAs (Decidable (_ ∧ _))

theorem Scan.next_of_isOrdinary {c : Char} (h : IsOrdinary c) (s : Scan) : s.next c = some s := by
  obtain ⟨hsingle, hdouble, hopen, hclose⟩ := h
  obtain ⟨region, depth⟩ := s
  cases region <;> simp [next, hsingle, hdouble, hopen, hclose]

theorem Scan.run_of_isOrdinary {text : List Char} (h : ∀ c ∈ text, IsOrdinary c) (s : Scan) :
    s.run text = some s := by
  induction text with
  | nil => rfl
  | cons c rest ih =>
    obtain ⟨hc, hrest⟩ := List.forall_mem_cons.1 h
    rw [run_cons, next_of_isOrdinary hc, Option.bind_some, ih hrest]

theorem balanced_of_isOrdinary (h : ∀ c ∈ text.toList, IsOrdinary c) : Balanced text :=
  Scan.run_of_isOrdinary h _

theorem isOrdinary_of_isBlankChar {c : Char} (h : isBlankChar c = true) : IsOrdinary c := by
  refine ⟨?_, ?_, ?_, ?_⟩ <;>
    · rintro rfl
      exact absurd h (by decide)

theorem Scan.run_of_isBlank (h : isBlank text = true) (s : Scan) :
    s.run text.toList = some s :=
  run_of_isOrdinary (fun c hc => isOrdinary_of_isBlankChar (List.all_eq_true.1 h c hc)) s

theorem Balanced.trim (h : Balanced text) : Balanced (trim text) := by
  obtain ⟨front, back, hfront, hback, htext⟩ := exists_trim text
  rw [Balanced, Takes, htext, String.toList_append, String.toList_append, Scan.run_append,
    Scan.run_append, Scan.run_of_isBlank hfront, Option.bind_some] at h
  obtain ⟨s, hs, hrest⟩ := Option.bind_eq_some_iff.1 h
  rw [Scan.run_of_isBlank hback] at hrest
  rw [Balanced, Takes, hs, hrest]

theorem balanced_repr (n : Nat) : Balanced (Nat.repr n) := by
  apply balanced_of_isOrdinary
  intro c hc
  have hdigit := isDigit_of_mem_repr hc
  refine ⟨?_, ?_, ?_, ?_⟩ <;>
    · rintro rfl
      exact absurd hdigit (by decide)

theorem balanced_toString (i : Int) : Balanced (toString i) := by
  cases i with
  | ofNat n => exact balanced_repr n
  | negSucc n =>
    have hminus : Balanced "-" := rfl
    exact hminus.append (balanced_repr (n + 1))

/-! ### Quoted texts -/

/-- The region begins and ends with the mark. -/
structure Region.IsMarkedBy (region : Region) (mark : Char) : Prop where
  opens : ∀ n, Scan.next ⟨.outside, n⟩ mark = some ⟨region, n⟩
  closes : ∀ n, Scan.next ⟨region, n⟩ mark = some ⟨.outside, n⟩
  holds : ∀ n c, c ≠ mark → Scan.next ⟨region, n⟩ c = some ⟨region, n⟩

theorem literal_isMarkedBy : Region.literal.IsMarkedBy '\'' where
  opens _ := rfl
  closes _ := rfl
  holds _ _ h := by simp [Scan.next, h]

theorem name_isMarkedBy : Region.name.IsMarkedBy '"' where
  opens _ := rfl
  closes _ := rfl
  holds _ _ h := by simp [Scan.next, h]

variable {region : Region} {mark : Char}

/-- A doubled mark leads out of the region and into it again. -/
theorem Region.IsMarkedBy.run_doubleMarks (h : region.IsMarkedBy mark) (n : Nat)
    (text : List Char) : Scan.run ⟨region, n⟩ (doubleMarks mark text) = some ⟨region, n⟩ := by
  induction text with
  | nil => rfl
  | cons c rest ih =>
    rw [doubleMarks]
    split
    next hc =>
      subst hc
      rw [Scan.run_cons, h.closes, Option.bind_some, Scan.run_cons, h.opens, Option.bind_some, ih]
    next hc => rw [Scan.run_cons, h.holds n c hc, Option.bind_some, ih]

theorem Region.IsMarkedBy.balanced_quotedBy (h : region.IsMarkedBy mark) (text : String) :
    Balanced (quotedBy mark text) := by
  rw [Balanced, Takes, quotedBy, String.toList_ofList, Scan.run_cons, h.opens, Option.bind_some,
    Scan.run_append, h.run_doubleMarks, Option.bind_some, Scan.run_cons, h.closes]
  rfl

end SchemaScript.Text
