import SchemaScript.GeneratedName
import SchemaScript.Proofs.Text.Numeral
import SchemaScript.Proofs.Text.Replace

/-! The largest suffix of a list of names depends on which names are there, and not on their order
or on how often they come. A name that was made of the stem and a number has that number as its
suffix, unless it is the last one. -/

namespace SchemaScript

theorem maxSuffix_le_iff (stem : String) (names : List String) (bound : Nat) :
    maxSuffix stem names ≤ bound ↔
      ∀ name ∈ names, ∀ n, suffix? stem name = some n → n ≤ bound := by
  induction names with
  | nil => simp [maxSuffix]
  | cons name rest ih =>
    rw [maxSuffix_cons, Nat.max_le, ih, List.forall_mem_cons]
    refine and_congr_left fun _ => ?_
    cases suffix? stem name <;> simp

theorem le_maxSuffix {stem name : String} {names : List String} {n : Nat} (hname : name ∈ names)
    (hn : suffix? stem name = some n) : n ≤ maxSuffix stem names :=
  (maxSuffix_le_iff stem names _).1 (Nat.le_refl _) name hname n hn

theorem maxSuffix_mono (stem : String) {first second : List String}
    (h : ∀ name ∈ first, name ∈ second) : maxSuffix stem first ≤ maxSuffix stem second := by
  rw [maxSuffix_le_iff]
  intro name hname n hn
  exact le_maxSuffix (h name hname) hn

theorem maxSuffix_append (stem : String) (first second : List String) :
    maxSuffix stem (first ++ second) = max (maxSuffix stem first) (maxSuffix stem second) := by
  induction first with
  | nil => simp [maxSuffix]
  | cons name rest ih => rw [List.cons_append, maxSuffix_cons, maxSuffix_cons, ih, Nat.max_assoc]

theorem maxSuffix_append_singleton (stem : String) (names : List String) (name : String) :
    maxSuffix stem (names ++ [name]) =
      max (maxSuffix stem names) ((suffix? stem name).getD 0) := by
  have hnil : maxSuffix stem [] = 0 := rfl
  rw [maxSuffix_append, maxSuffix_cons, hnil, Nat.max_zero]

theorem nextName_congr (stem : String) {first second : List String}
    (h : ∀ name, name ∈ first ↔ name ∈ second) : nextName stem first = nextName stem second := by
  have hle := maxSuffix_mono stem fun name => (h name).1
  have hge := maxSuffix_mono stem fun name => (h name).2
  rw [nextName, nextName, Nat.le_antisymm hle hge]

/-- The stem begins with something else than a digit, so that none is taken for its beginning. -/
theorem suffix?_append_repr {stem : String} {c : Char} {rest : List Char}
    (hstem : stem.toList = c :: rest) (hc : c.isDigit = false) (hblank : Text.isBlank stem = false)
    {n : Nat} (hn : n < lastSuffix) : suffix? stem (stem ++ Nat.repr n) = some n := by
  have hcontains : Text.contains (stem ++ Nat.repr n) stem = true := by
    rw [Text.contains_eq_true_iff, String.toList_append]
    exact (List.prefix_append _ _).isInfix
  have hdigits : c ∉ (Nat.repr n).toList := by
    intro hmem
    rw [Text.isDigit_of_mem_repr hmem] at hc
    contradiction
  have herase : Text.erase (stem ++ Nat.repr n) stem = Nat.repr n := by
    have hreplace := @Text.replace_append_append "" stem (Nat.repr n) c rest hstem (by simp) hdigits ""
    simpa [Text.erase] using hreplace
  have hbound : n < Text.numeralBound := by
    simp only [lastSuffix, Text.numeralBound] at hn ⊢
    omega
  rw [suffix?, Text.isBlank_append, hblank, hcontains, Bool.false_and, Bool.not_true, Bool.or_false,
    if_neg (by decide), herase, Text.numeral?_repr hbound, Option.filter_some,
    if_pos (by simpa using hn)]

/-! ### When a new name is taken already -/

theorem maxSuffix_lt (stem : String) (names : List String) : maxSuffix stem names < lastSuffix := by
  have hle : maxSuffix stem names ≤ lastSuffix - 1 := by
    rw [maxSuffix_le_iff]
    intro name _ n hn
    exact Nat.le_sub_one_of_lt (suffix?_lt hn)
  have hpos : 0 < lastSuffix := by decide
  omega

/-- A name brings the largest suffix, unless that is 0. -/
theorem exists_suffix?_eq_maxSuffix {stem : String} {names : List String}
    (h : 0 < maxSuffix stem names) :
    ∃ name ∈ names, suffix? stem name = some (maxSuffix stem names) := by
  induction names with
  | nil => simp [maxSuffix] at h
  | cons name rest ih =>
    rw [maxSuffix_cons] at h ⊢
    rcases Nat.le_total ((suffix? stem name).getD 0) (maxSuffix stem rest) with hle | hle
    · rw [Nat.max_eq_right hle] at h ⊢
      obtain ⟨other, hother, hsuffix⟩ := ih h
      exact ⟨other, List.mem_cons_of_mem name hother, hsuffix⟩
    · rw [Nat.max_eq_left hle] at h ⊢
      cases hsuffix : suffix? stem name with
      | none => simp [hsuffix] at h
      | some n => exact ⟨name, List.mem_cons_self, hsuffix⟩

/-- A new name is taken exactly when the numbers have run out: when one name has the largest suffix
that counts, and another is the stem with the last one, which does not count. -/
theorem nextName_mem_iff {stem : String} {c : Char} {rest : List Char}
    (hstem : stem.toList = c :: rest) (hc : c.isDigit = false) (hblank : Text.isBlank stem = false)
    (names : List String) :
    nextName stem names ∈ names ↔
      (∃ name ∈ names, suffix? stem name = some (lastSuffix - 1)) ∧
        stem ++ Nat.repr lastSuffix ∈ names := by
  have hlt := maxSuffix_lt stem names
  constructor
  · intro hmem
    have hlast : maxSuffix stem names + 1 = lastSuffix := by
      refine Nat.le_antisymm hlt (Nat.le_of_not_lt fun hnext => ?_)
      have hle := le_maxSuffix hmem (suffix?_append_repr hstem hc hblank hnext)
      omega
    have hpos : 0 < maxSuffix stem names := by
      have : 1 < lastSuffix := by decide
      omega
    obtain ⟨name, hname, hsuffix⟩ := exists_suffix?_eq_maxSuffix hpos
    rw [nextName, hlast] at hmem
    exact ⟨⟨name, hname, by rw [hsuffix, ← hlast, Nat.add_sub_cancel]⟩, hmem⟩
  · rintro ⟨⟨name, hname, hsuffix⟩, hmem⟩
    have hle := le_maxSuffix hname hsuffix
    have hlast : maxSuffix stem names + 1 = lastSuffix := by omega
    rw [nextName, hlast]
    exact hmem

end SchemaScript
