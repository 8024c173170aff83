/-! Dictionaries from texts to values, kept in the order of their keys. Two dictionaries with the
same values at the same keys are equal. -/

namespace SchemaScript

variable {β : Type}

/-- The entries with `key` set to `value`, in key order if they were so before. -/
def insertEntry (key : String) (value : β) : List (String × β) → List (String × β)
  | [] => [(key, value)]
  | (k, v) :: rest =>
    if key < k then (key, value) :: (k, v) :: rest
    else if k < key then (k, v) :: insertEntry key value rest
    else (key, value) :: rest

def SortedByKey (entries : List (String × β)) : Prop := entries.Pairwise (·.1 < ·.1)

theorem fst_of_mem_insertEntry {key : String} {value : β} {entries : List (String × β)}
    {e : String × β} (h : e ∈ insertEntry key value entries) : e.1 = key ∨ e ∈ entries := by
  induction entries with
  | nil => simp_all [insertEntry]
  | cons head rest ih =>
    simp only [insertEntry] at h
    split at h
    · simp only [List.mem_cons] at h ⊢
      rcases h with rfl | h
      · exact .inl rfl
      · exact .inr h
    · split at h
      · simp only [List.mem_cons] at h ⊢
        rcases h with rfl | h
        · exact .inr (.inl rfl)
        · exact (ih h).imp id .inr
      · simp only [List.mem_cons] at h ⊢
        rcases h with rfl | h
        · exact .inl rfl
        · exact .inr (.inr h)

theorem sortedByKey_insertEntry (key : String) (value : β) {entries : List (String × β)}
    (h : SortedByKey entries) : SortedByKey (insertEntry key value entries) := by
  induction entries with
  | nil => simp [insertEntry, SortedByKey]
  | cons head rest ih =>
    have ⟨above, tail⟩ := List.pairwise_cons.1 h
    simp only [insertEntry]
    split
    next before =>
      refine List.pairwise_cons.2 ⟨fun e he => ?_, h⟩
      rcases List.mem_cons.1 he with rfl | he
      · exact before
      · exact String.lt_trans before (above e he)
    next notBefore =>
      split
      next after =>
        refine List.pairwise_cons.2 ⟨fun e he => ?_, ih tail⟩
        rcases fst_of_mem_insertEntry he with same | old
        · simpa [same] using after
        · exact above e old
      next notAfter =>
        have same : head.1 = key :=
          String.le_antisymm (String.not_lt.1 notBefore) (String.not_lt.1 notAfter)
        exact List.pairwise_cons.2 ⟨fun e he => same ▸ above e he, tail⟩

/-- Later entries win over earlier ones with the same key. -/
def entriesOf (pairs : List (String × β)) : List (String × β) :=
  pairs.foldl (fun entries pair => insertEntry pair.1 pair.2 entries) []

theorem sortedByKey_entriesOf (pairs : List (String × β)) : SortedByKey (entriesOf pairs) := by
  suffices ∀ entries : List (String × β), SortedByKey entries →
      SortedByKey (pairs.foldl (fun entries pair => insertEntry pair.1 pair.2 entries) entries) from
    this [] .nil
  induction pairs with
  | nil => exact fun _ h => h
  | cons pair rest ih => exact fun entries h => ih _ (sortedByKey_insertEntry _ _ h)

structure Dictionary (β : Type) where
  entries : List (String × β) := []
  sorted : SortedByKey entries := by exact .nil
  deriving DecidableEq

namespace Dictionary

def ofList (pairs : List (String × β)) : Dictionary β :=
  ⟨entriesOf pairs, sortedByKey_entriesOf pairs⟩

def keys (d : Dictionary β) : List String := d.entries.map (·.1)

def get? (d : Dictionary β) (key : String) : Option β := d.entries.lookup key

def insert (d : Dictionary β) (key : String) (value : β) : Dictionary β :=
  ⟨insertEntry key value d.entries, sortedByKey_insertEntry key value d.sorted⟩

def erase (d : Dictionary β) (key : String) : Dictionary β :=
  ⟨d.entries.filter (·.1 ≠ key), d.sorted.filter _⟩

instance : Inhabited (Dictionary β) := ⟨{}⟩

end Dictionary

end SchemaScript
