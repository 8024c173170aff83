import SchemaScript.Constraint.Merge
import SchemaScript.Proofs.GeneratedName

/-! The largest suffix in a word of 32 bits. One pass over the names keeps the largest number so far
in a word. The largest number that a word can hold is no suffix, so that at the end of the pass there
is always room for the number of a new name, and the sum with one is the sum of the numbers. -/

namespace SchemaScript

/-- The number that counts for a name: what is left of a name that has the stem, unless it is the
largest number of all. -/
structure HasSuffix (stem name : String) (n : Nat) : Prop where
  written : Text.isBlank name = false
  stemmed : stem.toList <:+: name.toList
  number : Text.numeral? (Text.erase name stem) = some n
  notLast : n ≠ 4294967295

theorem suffix?_eq_some_iff {stem name : String} {n : Nat} :
    suffix? stem name = some n ↔ HasSuffix stem name n := by
  have hlast (h : Text.numeral? (Text.erase name stem) = some n) :
      n < lastSuffix ↔ n ≠ 4294967295 := by
    have hbound := Text.numeral?_lt h
    simp only [lastSuffix, Text.numeralBound] at hbound ⊢
    omega
  constructor
  · intro h
    have hlt := suffix?_lt h
    unfold suffix? at h
    split at h
    next => contradiction
    next hskip =>
      rw [Bool.or_eq_true, not_or, Bool.not_eq_true, Bool.not_eq_true', Bool.not_eq_false,
        Text.contains_eq_true_iff] at hskip
      have hnumber := (Option.filter_eq_some_iff.1 h).1
      exact ⟨hskip.1, hskip.2, hnumber, (hlast hnumber).1 hlt⟩
  · rintro ⟨hwritten, hstemmed, hnumber, hne⟩
    rw [suffix?, hwritten, (Text.contains_eq_true_iff _ _).2 hstemmed, hnumber,
      if_neg (by decide), Option.filter_some, if_pos (by simpa using (hlast hnumber).2 hne)]

/-! ### One pass in a word -/

/-- One step of the pass. -/
def countName (stem : String) (largest : UInt32) (name : String) : UInt32 :=
  match suffix? stem name with
  | none => largest
  | some n => max largest (.ofNat n)

/-- The largest suffix after a pass from the first name to the last. -/
def countNames (stem : String) (names : List String) : UInt32 := names.foldl (countName stem) 0

theorem toNat_max (first second : UInt32) :
    (max first second).toNat = max first.toNat second.toNat := by
  have hmax : max first second = if first ≤ second then second else first := rfl
  rw [hmax]
  split
  next h => exact (Nat.max_eq_right (UInt32.le_iff_toNat_le.1 h)).symm
  next h => exact (Nat.max_eq_left (Nat.le_of_not_le (mt UInt32.le_iff_toNat_le.2 h))).symm

theorem toNat_countName (stem : String) (largest : UInt32) (name : String) :
    (countName stem largest name).toNat = max largest.toNat ((suffix? stem name).getD 0) := by
  unfold countName
  cases h : suffix? stem name with
  | none => simp
  | some n =>
    -- A number that counts fits into the word, so turning it into one loses nothing.
    have hlt : n < UInt32.size := Nat.lt_trans (suffix?_lt h) (by decide)
    rw [toNat_max, UInt32.toNat_ofNat_of_lt' hlt, Option.getD_some]

theorem toNat_foldl_countName (stem : String) (largest : UInt32) (names : List String) :
    (names.foldl (countName stem) largest).toNat = max largest.toNat (maxSuffix stem names) := by
  induction names generalizing largest with
  | nil => simp [maxSuffix]
  | cons name rest ih =>
    rw [List.foldl_cons, ih, toNat_countName, maxSuffix_cons, Nat.max_assoc]

theorem toNat_countNames (stem : String) (names : List String) :
    (countNames stem names).toNat = maxSuffix stem names := by
  rw [countNames, toNat_foldl_countName, UInt32.toNat_zero, Nat.zero_max]

/-! ### Room for one more -/

theorem maxSuffix_le (stem : String) (names : List String) :
    maxSuffix stem names ≤ 4294967294 :=
  Nat.le_sub_one_of_lt (maxSuffix_lt stem names)

/-- Nothing is carried out of the word. -/
theorem toNat_countNames_add_one (stem : String) (names : List String) :
    (countNames stem names + 1).toNat = maxSuffix stem names + 1 := by
  have hle := maxSuffix_le stem names
  rw [UInt32.toNat_add, toNat_countNames, UInt32.toNat_one, Nat.mod_eq_of_lt (by omega)]

theorem nextName_eq (stem : String) (names : List String) :
    nextName stem names = stem ++ Nat.repr (countNames stem names + 1).toNat := by
  rw [toNat_countNames_add_one, nextName]

theorem maxSuffix_perm (stem : String) {first second : List String} (h : first.Perm second) :
    maxSuffix stem first = maxSuffix stem second :=
  Nat.le_antisymm (maxSuffix_mono stem fun _ => h.mem_iff.1)
    (maxSuffix_mono stem fun _ => h.mem_iff.2)

/-- The largest suffix is the least bound of the suffixes that count: of two lists in a row it is the
larger one of theirs, the order of a list does not change it, and more names do not make it smaller.
It is at most 4294967294, so the pass in a word ends with it, the word after that is its successor,
and the names that are made up for objects and for constraints end in that number. -/
theorem maxSuffix_safe :
    (∀ stem names bound, maxSuffix stem names ≤ bound ↔
      ∀ name ∈ names, ∀ n, HasSuffix stem name n → n ≤ bound) ∧
    (∀ stem first second,
      maxSuffix stem (first ++ second) = max (maxSuffix stem first) (maxSuffix stem second)) ∧
    (∀ stem first second, first.Perm second → maxSuffix stem first = maxSuffix stem second) ∧
    (∀ stem first second, first ⊆ second → maxSuffix stem first ≤ maxSuffix stem second) ∧
    (∀ stem names, maxSuffix stem names ≤ 4294967294 ∧
      (countNames stem names).toNat = maxSuffix stem names ∧
      (countNames stem names + 1).toNat = maxSuffix stem names + 1) ∧
    (∀ (kind : ObjectKind) siblings, kind.newName siblings =
      "NEW_" ++ kind.keyword ++ "_" ++ Nat.repr (countNames kind.stem siblings + 1).toNat) ∧
    ∀ (kind : ConstraintKind) existing, kind.newName existing =
      kind.nameStart ++ "_<TABLE_NAME>_" ++ Nat.repr (countNames kind.stem existing + 1).toNat := by
  refine ⟨?_, maxSuffix_append, fun stem _ _ => maxSuffix_perm stem,
    fun stem _ _ h => maxSuffix_mono stem fun _ => @h _, ?_, ?_, ?_⟩
  · intro stem names bound
    simp only [maxSuffix_le_iff, suffix?_eq_some_iff]
  · intro stem names
    exact ⟨maxSuffix_le stem names, toNat_countNames stem names, toNat_countNames_add_one stem names⟩
  · intro kind siblings
    exact nextName_eq kind.stem siblings
  · intro kind existing
    have hmark : "_<TABLE_NAME>_" = "_" ++ tableNameMark ++ "_" := by decide
    rw [hmark, ← String.append_assoc, ← String.append_assoc]
    exact nextName_eq kind.stem existing

/-- A number next to the largest one is counted wherever it stands, and the largest one nowhere. -/
theorem maxSuffix_safe_lastNumbers :
    let names := ["NEW_TABLE_4294967295", "STOCK", "NEW_TABLE_+4294967294", "NEW_TABLE_7"]
    names.Perm names.reverse ∧ maxSuffix "NEW_TABLE_" names = 4294967294 ∧
      maxSuffix "NEW_TABLE_" names.reverse = 4294967294 ∧
      maxSuffix "NEW_TABLE_" ["NEW_TABLE_7"] ≤ maxSuffix "NEW_TABLE_" names ∧
      (countNames "NEW_TABLE_" names + 1).toNat = 4294967295 := by
  intro names
  obtain ⟨-, -, hperm, hmono, hbound, -, -⟩ := maxSuffix_safe
  have horder : names.Perm names.reverse := (List.reverse_perm names).symm
  have hlargest : maxSuffix "NEW_TABLE_" names = 4294967294 := by decide +kernel
  refine ⟨horder, hlargest, ?_, hmono _ _ _ (by decide), ?_⟩
  · rw [← hperm _ _ _ horder, hlargest]
  · rw [(hbound _ _).2.2, hlargest]

end SchemaScript
