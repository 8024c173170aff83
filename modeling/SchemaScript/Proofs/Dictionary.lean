import SchemaScript.Dictionary
import Mathlib.Data.List.Sort

/-! Looking up keys among entries that were put in key order. The last entry of a key is the one
that is found, and entries that were in order already are left as they are. Two dictionaries are
equal when the same is found in both under every key. -/

namespace SchemaScript

variable {β : Type}

theorem lookup_cons_eq_ite (k a : String) (v : β) (rest : List (String × β)) :
    ((a, v) :: rest).lookup k = if k = a then some v else rest.lookup k := by
  by_cases hk : k = a
  · simp [hk]
  · have hb : (k == a) = false := by simpa using hk
    simp only [List.lookup_cons, hb, if_neg hk]

theorem lookup_insertEntry (key k : String) (value : β) (entries : List (String × β)) :
    (insertEntry key value entries).lookup k =
      if k = key then some value else entries.lookup k := by
  induction entries with
  | nil => simp only [insertEntry, lookup_cons_eq_ite]
  | cons head rest ih =>
    obtain ⟨a, v⟩ := head
    simp only [insertEntry]
    split
    next before => simp only [lookup_cons_eq_ite]
    next notBefore =>
      split
      next after =>
        -- The key that is passed over is less than the new one, hence another one.
        have ha : a ≠ key := fun h => String.lt_irrefl key (h ▸ after)
        simp only [lookup_cons_eq_ite, ih]
        by_cases hk : k = a
        · subst hk; simp only [if_pos, if_neg ha]
        · simp only [if_neg hk]
      next notAfter =>
        have ha : a = key :=
          String.le_antisymm (String.not_lt.1 notBefore) (String.not_lt.1 notAfter)
        subst ha
        simp only [lookup_cons_eq_ite]
        by_cases hk : k = a
        · simp only [if_pos hk]
        · simp only [if_neg hk]

theorem Dictionary.get?_insert (d : Dictionary β) (key k : String) (value : β) :
    (d.insert key value).get? k = if k = key then some value else d.get? k :=
  lookup_insertEntry key k value d.entries

theorem lookup_foldl_insertEntry (k : String) (pairs entries : List (String × β))
    (h : k ∉ pairs.map (·.1)) :
    (pairs.foldl (fun entries pair => insertEntry pair.1 pair.2 entries) entries).lookup k =
      entries.lookup k := by
  induction pairs generalizing entries with
  | nil => rfl
  | cons pair rest ih =>
    simp only [List.map_cons, List.mem_cons, not_or] at h
    simp only [List.foldl_cons]
    rw [ih _ h.2, lookup_insertEntry, if_neg h.1]

/-- Where each key stands once, every entry is found. -/
theorem lookup_entriesOf {pairs : List (String × β)} (hn : (pairs.map (·.1)).Nodup)
    {pair : String × β} (hp : pair ∈ pairs) :
    (entriesOf pairs).lookup pair.1 = some pair.2 := by
  suffices ∀ entries : List (String × β),
      (pairs.foldl (fun entries pair => insertEntry pair.1 pair.2 entries) entries).lookup pair.1 =
        some pair.2 from this []
  induction pairs with
  | nil => simp at hp
  | cons first rest ih =>
    intro entries
    obtain ⟨hfirst, hrest⟩ := List.nodup_cons.1 hn
    simp only [List.foldl_cons]
    rcases List.mem_cons.1 hp with rfl | hp
    · rw [lookup_foldl_insertEntry _ _ _ hfirst, lookup_insertEntry, if_pos rfl]
    · exact ih hrest hp _

theorem lookup_filter_ne {k key : String} (hk : k ≠ key) (entries : List (String × β)) :
    (entries.filter (·.1 ≠ key)).lookup k = entries.lookup k := by
  induction entries with
  | nil => rfl
  | cons head rest ih =>
    obtain ⟨a, v⟩ := head
    by_cases ha : a = key
    · subst ha
      rw [List.filter_cons_of_neg (by simp), lookup_cons_eq_ite, if_neg hk, ih]
    · rw [List.filter_cons_of_pos (by simpa using ha), lookup_cons_eq_ite, lookup_cons_eq_ite, ih]

theorem lookup_filter_self (key : String) (entries : List (String × β)) :
    (entries.filter (·.1 ≠ key)).lookup key = none := by
  rw [List.lookup_eq_none_iff]
  intro e he
  have hne : e.1 ≠ key := of_decide_eq_true (List.mem_filter.1 he).2
  exact bne_iff_ne.2 hne.symm

theorem Dictionary.get?_erase (d : Dictionary β) (key k : String) :
    (d.erase key).get? k = if k = key then none else d.get? k := by
  by_cases hk : k = key
  · rw [if_pos hk, hk]
    exact lookup_filter_self key d.entries
  · rw [if_neg hk]
    exact lookup_filter_ne hk d.entries

theorem insertEntry_of_forall_lt {key : String} (value : β) {entries : List (String × β)}
    (h : ∀ e ∈ entries, e.1 < key) : insertEntry key value entries = entries ++ [(key, value)] := by
  induction entries with
  | nil => rfl
  | cons head rest ih =>
    have hhead := h head (by simp)
    have hnot : ¬ key < head.1 := fun hlt => String.lt_irrefl _ (String.lt_trans hlt hhead)
    simp only [insertEntry, if_neg hnot, if_pos hhead, ih fun e he => h e (by simp [he]),
      List.cons_append]

theorem entriesOf_of_sortedByKey {pairs : List (String × β)} (h : SortedByKey pairs) :
    entriesOf pairs = pairs := by
  suffices ∀ entries : List (String × β), SortedByKey (entries ++ pairs) →
      pairs.foldl (fun entries pair => insertEntry pair.1 pair.2 entries) entries =
        entries ++ pairs from this [] h
  clear h
  induction pairs with
  | nil => simp
  | cons pair rest ih =>
    intro entries h
    have hlt : ∀ e ∈ entries, e.1 < pair.1 := fun e he =>
      (List.pairwise_append.1 h).2.2 e he pair (by simp)
    simp only [List.foldl_cons]
    rw [insertEntry_of_forall_lt _ hlt, ih _ (by simpa using h), List.append_assoc]
    rfl

/-! ### Entries in key order -/

theorem SortedByKey.nodup_keys {entries : List (String × β)} (h : SortedByKey entries) :
    (entries.map (·.1)).Nodup :=
  List.pairwise_map.2 (h.imp String.ne_of_lt)

theorem SortedByKey.mem_iff {entries : List (String × β)} (h : SortedByKey entries)
    (e : String × β) : e ∈ entries ↔ entries.lookup e.1 = some e.2 := by
  constructor
  · intro he
    have hfound := lookup_entriesOf h.nodup_keys he
    rwa [entriesOf_of_sortedByKey h] at hfound
  · intro he
    obtain ⟨front, back, hentries, -⟩ := List.lookup_eq_some_iff.1 he
    simp [hentries]

theorem SortedByKey.eq_of_lookup_eq {first second : List (String × β)} (hfirst : SortedByKey first)
    (hsecond : SortedByKey second) (h : ∀ key, first.lookup key = second.lookup key) :
    first = second := by
  have : Std.Antisymm fun a b : String × β => a.1 < b.1 :=
    ⟨fun _ _ hab hba => absurd hba (String.lt_asymm hab)⟩
  have : Std.Irrefl fun a b : String × β => a.1 < b.1 := ⟨fun a => String.lt_irrefl a.1⟩
  refine List.Pairwise.eq_of_mem_iff hfirst hsecond fun e => ?_
  rw [hfirst.mem_iff, hsecond.mem_iff, h]

namespace Dictionary

theorem ext_get? {first second : Dictionary β} (h : ∀ key, first.get? key = second.get? key) :
    first = second := by
  obtain ⟨entries, hentries⟩ := first
  obtain ⟨entries', hentries'⟩ := second
  obtain rfl : entries = entries' := hentries.eq_of_lookup_eq hentries' h
  rfl

theorem get?_eq_some_of_mem {d : Dictionary β} {e : String × β} (h : e ∈ d.entries) :
    d.get? e.1 = some e.2 := (d.sorted.mem_iff e).1 h

theorem get?_eq_none_iff {d : Dictionary β} {key : String} :
    d.get? key = none ↔ key ∉ d.keys := by
  simp only [get?, keys, List.lookup_eq_none_iff, bne_iff_ne, List.mem_map, not_exists, not_and]
  exact forall₂_congr fun e _ => ne_comm

theorem nodup_keys (d : Dictionary β) : d.keys.Nodup := d.sorted.nodup_keys

theorem keys_sorted (d : Dictionary β) : d.keys.Pairwise (· < ·) := List.pairwise_map.2 d.sorted

end Dictionary

end SchemaScript
