import SchemaScript.ObjectKind
import SchemaScript.Text.Blank
import SchemaScript.Text.Numeral
import SchemaScript.Text.Search

/-! Names made of a stem and a number. A new name takes the number after the largest one in use. -/

namespace SchemaScript

/-- The largest suffix, which has no successor and counts for nothing. -/
def lastSuffix : Nat := Text.numeralBound - 1

/-- The number that is left of a name when the stem is taken out of it. -/
def suffix? (stem name : String) : Option Nat :=
  if Text.isBlank name || !Text.contains name stem then none
  else (Text.numeral? (Text.erase name stem)).filter (· < lastSuffix)

/-- The largest suffix among the names, or 0. -/
def maxSuffix (stem : String) (names : List String) : Nat :=
  (names.filterMap (suffix? stem)).foldr max 0

def nextName (stem : String) (names : List String) : String :=
  stem ++ Nat.repr (maxSuffix stem names + 1)

def ObjectKind.stem (kind : ObjectKind) : String := "NEW_" ++ kind.keyword ++ "_"

/-- The next free name for an object among its siblings. -/
def ObjectKind.newName (kind : ObjectKind) (siblings : List String) : String :=
  nextName kind.stem siblings

theorem suffix?_lt {stem name : String} {n : Nat} (h : suffix? stem name = some n) :
    n < lastSuffix := by
  unfold suffix? at h
  split at h
  · cases h
  · simpa using (Option.filter_eq_some_iff.1 h).2

theorem maxSuffix_cons (stem name : String) (names : List String) :
    maxSuffix stem (name :: names) = max ((suffix? stem name).getD 0) (maxSuffix stem names) := by
  unfold maxSuffix
  cases h : suffix? stem name <;> simp [h]

end SchemaScript
