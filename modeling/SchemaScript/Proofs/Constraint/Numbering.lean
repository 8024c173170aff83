import SchemaScript.Proofs.Constraint.Grouping
import Mathlib.Data.List.Basic

/-! How constraints without a name are numbered. The stems of the four kinds do not occur in one
another's names, so each kind counts on its own: from the largest number that a given name brings,
wherever in the list it stands. A number that was counted up to belongs to no other entry, and its
entry comes out of the merge alone. -/

namespace SchemaScript

namespace ConstraintKind

theorem eq_of_nameStart_isSuffix {kind other : ConstraintKind}
    (h : kind.nameStart.toList <:+ other.nameStart.toList) : kind = other := by
  revert h
  cases kind <;> cases other <;> decide

theorem toList_stem (kind : ConstraintKind) :
    kind.stem.toList = kind.nameStart.toList ++ ['_'] ++ '<' :: "TABLE_NAME>_".toList := by
  cases kind <;> rfl

/-- The mark of the table stands once in a made-up name, so another kind would have to end the
start of this one. -/
theorem notInfix_of_ne {kind other : ConstraintKind} (h : kind ≠ other) (n : Nat) :
    ¬kind.stem.toList <:+: (other.stem ++ Nat.repr n).toList := by
  rintro ⟨before, after, hname⟩
  rw [String.toList_append, toList_stem, toList_stem] at hname
  have hstart : '<' ∉ other.nameStart.toList ++ ['_'] := by cases other <;> decide
  have htail : '<' ∉ "TABLE_NAME>_".toList ++ (Nat.repr n).toList := by
    intro hmem
    rcases List.mem_append.1 hmem with hmem | hmem
    · exact absurd hmem (by decide)
    · exact absurd (Text.isDigit_of_mem_repr hmem) (by decide)
  have hsplit : other.nameStart.toList ++ ['_'] ++
      '<' :: ("TABLE_NAME>_".toList ++ (Nat.repr n).toList) =
      (before ++ kind.nameStart.toList ++ ['_']) ++ '<' :: ("TABLE_NAME>_".toList ++ after) := by
    simpa using hname.symm
  obtain ⟨hfront, -, -⟩ := (List.append_cons_inj_of_notMem hstart htail).1 hsplit
  exact h (eq_of_nameStart_isSuffix ⟨before, (List.append_cancel_right hfront).symm⟩)

theorem suffix?_stem_other {kind other : ConstraintKind} (h : kind ≠ other) (n : Nat) :
    suffix? kind.stem (other.stem ++ Nat.repr n) = none := by
  have hcontains : Text.contains (other.stem ++ Nat.repr n) kind.stem = false := by
    rw [Bool.eq_false_iff, ne_eq, Text.contains_eq_true_iff]
    exact notInfix_of_ne h n
  rw [suffix?, hcontains, Bool.not_false, Bool.or_true, if_pos rfl]

theorem suffix?_stem_self (kind : ConstraintKind) {n : Nat} (hn : n < lastSuffix) :
    suffix? kind.stem (kind.stem ++ Nat.repr n) = some n := by
  cases kind <;> exact suffix?_append_repr rfl (by decide) (by decide) hn

end ConstraintKind

namespace Constraint

/-- The entry gets a made-up name of this kind. -/
def isUnnamed (kind : ConstraintKind) (c : Constraint) : Bool :=
  c.name?.isNone && c.kind == some kind

theorem isUnnamed_eq_true_iff {kind : ConstraintKind} {c : Constraint} :
    isUnnamed kind c = true ↔ c.name? = none ∧ c.kind = some kind := by
  simp [isUnnamed]

/-- The largest number that the given names bring to a kind. -/
def largestGiven (kind : ConstraintKind) (entries : List Constraint) : Nat :=
  maxSuffix kind.stem (entries.filterMap (·.name?))

/-- The number that a kind has been counted up to when the first `i` entries have their names. -/
def numberAfter (kind : ConstraintKind) (entries : List Constraint) (i : Nat) : Nat :=
  largestGiven kind entries + (entries.take i).countP (isUnnamed kind)

/-- The numbers of a kind stay below the one that counts for nothing. -/
def HasRoom (kind : ConstraintKind) (entries : List Constraint) : Prop :=
  largestGiven kind entries + entries.countP (isUnnamed kind) < lastSuffix

variable {kind : ConstraintKind} {entries merged : List Constraint} {names : List String}
  {c : Constraint} {name : String}

theorem HasRoom.numberAfter_lt (h : HasRoom kind entries) (i : Nat) :
    numberAfter kind entries i < lastSuffix := by
  have hle : (entries.take i).countP (isUnnamed kind) ≤ entries.countP (isUnnamed kind) :=
    (List.take_sublist i entries).countP_le
  unfold HasRoom at h
  unfold numberAfter
  omega

theorem numberAfter_succ {i : Nat} (hi : entries[i]? = some c) :
    numberAfter kind entries (i + 1) =
      numberAfter kind entries i + if isUnnamed kind c then 1 else 0 := by
  rw [numberAfter, numberAfter, List.take_add_one, hi, List.countP_append, Option.toList_some,
    List.countP_singleton, Nat.add_assoc]

/-! ### One entry after another -/

/-- One more name moves the largest number of a kind on exactly when it was made up for it. -/
theorem maxSuffix_concat {given before : List String} (h : IsName given before c name)
    (hgiven : ∀ own, c.name? = some own → own ∈ given)
    (hroom : isUnnamed kind c = true → maxSuffix kind.stem (given ++ before) + 1 < lastSuffix) :
    maxSuffix kind.stem (given ++ (before ++ [name])) =
      maxSuffix kind.stem (given ++ before) + if isUnnamed kind c then 1 else 0 := by
  rw [← List.append_assoc, maxSuffix_append_singleton]
  unfold IsName at h
  cases hname : c.name? with
  | some own =>
    -- A given name has been counted from the start.
    have hunnamed : isUnnamed kind c = false := by simp [isUnnamed, hname]
    rw [hname] at h
    subst h
    have hle : (suffix? kind.stem name).getD 0 ≤ maxSuffix kind.stem (given ++ before) := by
      cases hsuffix : suffix? kind.stem name with
      | none => exact Nat.zero_le _
      | some n =>
        exact le_maxSuffix (List.mem_append_left _ (hgiven name hname)) hsuffix
    rw [hunnamed, if_neg (by decide), Nat.max_eq_left hle, Nat.add_zero]
  | none =>
    rw [hname] at h
    obtain ⟨own, hown, rfl⟩ := h
    by_cases hkind : kind = own
    · subst hkind
      have hunnamed : isUnnamed kind c = true := isUnnamed_eq_true_iff.2 ⟨hname, hown⟩
      rw [hunnamed, if_pos rfl, ConstraintKind.newName, nextName,
        ConstraintKind.suffix?_stem_self kind (hroom hunnamed), Option.getD_some]
      omega
    · have hunnamed : isUnnamed kind c = false := by
        rw [Bool.eq_false_iff, ne_eq, isUnnamed_eq_true_iff, hown]
        rintro ⟨-, hsame⟩
        exact hkind (Option.some.inj hsame).symm
      rw [hunnamed, if_neg (by decide), ConstraintKind.newName, nextName,
        ConstraintKind.suffix?_stem_other hkind, Option.getD_none, Nat.max_zero, Nat.add_zero]

/-- The names so far bring a kind exactly as far as its entries without a name have counted. -/
theorem maxSuffix_take (h : Called entries names) (hroom : HasRoom kind entries) {i : Nat}
    (hi : i ≤ entries.length) :
    maxSuffix kind.stem (entries.filterMap (·.name?) ++ names.take i) =
      numberAfter kind entries i := by
  induction i with
  | zero => simp [numberAfter, largestGiven]
  | succ i ih =>
    have hlt : i < names.length := h.1 ▸ hi
    have hentry : entries[i]? = some entries[i] := List.getElem?_eq_getElem hi
    have hplace : names[i]? = some names[i] := List.getElem?_eq_getElem hlt
    have hbefore := ih (Nat.le_of_succ_le hi)
    have hnext : numberAfter kind entries (i + 1) =
        numberAfter kind entries i + if isUnnamed kind entries[i] then 1 else 0 :=
      numberAfter_succ hentry
    have hlast := hroom.numberAfter_lt (i + 1)
    rw [List.take_add_one, hplace, Option.toList_some,
      maxSuffix_concat (h.2 i _ _ hentry hplace), hbefore, hnext]
    · intro own hown
      exact List.mem_filterMap.2 ⟨entries[i], List.getElem_mem hi, hown⟩
    · intro hunnamed
      rw [hunnamed, if_pos rfl] at hnext
      omega

theorem name_eq_of_isUnnamed (h : Called entries names) (hroom : HasRoom kind entries) {i : Nat}
    (hentry : entries[i]? = some c) (hc : isUnnamed kind c = true)
    (hplace : names[i]? = some name) :
    name = kind.stem ++ Nat.repr (numberAfter kind entries (i + 1)) := by
  have hle : i ≤ entries.length := Nat.le_of_lt (List.getElem?_eq_some_iff.1 hentry).1
  obtain ⟨hname, hkind⟩ := isUnnamed_eq_true_iff.1 hc
  have hIs := h.2 i c name hentry hplace
  simp only [IsName, hname, hkind, Option.some.injEq] at hIs
  obtain ⟨_, rfl, rfl⟩ := hIs
  rw [ConstraintKind.newName, nextName, maxSuffix_take h hroom hle, numberAfter_succ hentry, hc,
    if_pos rfl]

/-! ### No other entry has the name -/

theorem numberAfter_mono {i k : Nat} (h : i ≤ k) :
    numberAfter kind entries i ≤ numberAfter kind entries k :=
  Nat.add_le_add_left (List.take_sublist_take_left h).countP_le _

theorem lt_numberAfter_of_isUnnamed {i k : Nat} (hk : entries[k]? = some c)
    (hc : isUnnamed kind c = true) (h : i < k) :
    numberAfter kind entries (i + 1) < numberAfter kind entries (k + 1) := by
  have hle : numberAfter kind entries (i + 1) ≤ numberAfter kind entries k := numberAfter_mono h
  rw [numberAfter_succ hk, hc, if_pos rfl]
  omega

theorem eq_of_numberAfter_eq {i k : Nat} {other : Constraint} (hi : entries[i]? = some c)
    (hc : isUnnamed kind c = true) (hk : entries[k]? = some other)
    (hother : isUnnamed kind other = true)
    (h : numberAfter kind entries (i + 1) = numberAfter kind entries (k + 1)) : i = k := by
  rcases Nat.lt_trichotomy i k with hlt | heq | hgt
  · have := lt_numberAfter_of_isUnnamed hk hother hlt
    omega
  · exact heq
  · have := lt_numberAfter_of_isUnnamed hi hc hgt
    omega

/-- The number of a made-up name is past that of every given name. -/
theorem newName_notMem_given (hroom : HasRoom kind entries) {i : Nat}
    (hentry : entries[i]? = some c) (hc : isUnnamed kind c = true) :
    kind.stem ++ Nat.repr (numberAfter kind entries (i + 1)) ∉ entries.filterMap (·.name?) := by
  intro hmem
  have hsuffix := kind.suffix?_stem_self (hroom.numberAfter_lt (i + 1))
  have hle : numberAfter kind entries (i + 1) ≤ largestGiven kind entries :=
    le_maxSuffix hmem hsuffix
  rw [numberAfter_succ hentry, hc, if_pos rfl, numberAfter] at hle
  omega

theorem eq_of_name_eq (h : Called entries names) (hroom : HasRoom kind entries) {i k : Nat}
    (hentry : entries[i]? = some c) (hc : isUnnamed kind c = true) (hi : names[i]? = some name)
    (hk : names[k]? = some name) : k = i := by
  have hname := name_eq_of_isUnnamed h hroom hentry hc hi
  have hlt : k < entries.length := h.1 ▸ (List.getElem?_eq_some_iff.1 hk).1
  have hother : entries[k]? = some entries[k] := List.getElem?_eq_getElem hlt
  have hIs := h.2 k _ name hother hk
  unfold IsName at hIs
  split at hIs
  next own hown =>
    subst hIs hname
    exact absurd (List.mem_filterMap.2 ⟨entries[k], List.getElem_mem hlt, hown⟩)
      (newName_notMem_given hroom hentry hc)
  next hown =>
    obtain ⟨kind', hkind, hnew⟩ := hIs
    have hsuffix := kind.suffix?_stem_self (hroom.numberAfter_lt (i + 1))
    rw [← hname, hnew, ConstraintKind.newName, nextName] at hsuffix
    by_cases hsame : kind = kind'
    · subst hsame
      have hunnamed : isUnnamed kind entries[k] = true := isUnnamed_eq_true_iff.2 ⟨hown, hkind⟩
      have hnumber := name_eq_of_isUnnamed h hroom hother hunnamed hk
      have hself := kind.suffix?_stem_self (hroom.numberAfter_lt (k + 1))
      rw [← hnumber, hname, kind.suffix?_stem_self (hroom.numberAfter_lt (i + 1))] at hself
      exact (eq_of_numberAfter_eq hentry hc hother hunnamed (Option.some.inj hself)).symm
    · rw [ConstraintKind.suffix?_stem_other hsame] at hsuffix
      contradiction

/-- An entry whose name no other entry has makes a group of its own. -/
theorem entriesCalled_eq_singleton (hlength : names.length = entries.length) {i : Nat}
    (hentry : entries[i]? = some c) (hi : names[i]? = some name)
    (honly : ∀ k, names[k]? = some name → k = i) : entriesCalled names entries name = [c] := by
  obtain ⟨hlt, hget⟩ := List.getElem?_eq_some_iff.1 hi
  obtain ⟨hlt', hget'⟩ := List.getElem?_eq_some_iff.1 hentry
  have hbefore : name ∉ names.take i := by
    intro hmem
    obtain ⟨k, hk⟩ := List.mem_iff_getElem?.1 hmem
    rw [List.getElem?_take] at hk
    split at hk
    next hki => exact absurd (honly k hk) (by omega)
    next => contradiction
  have hafter : name ∉ names.drop (i + 1) := by
    intro hmem
    obtain ⟨k, hk⟩ := List.mem_iff_getElem?.1 hmem
    rw [List.getElem?_drop] at hk
    exact absurd (honly _ hk) (by omega)
  have hnone : ∀ (list : List String) (others : List Constraint), name ∉ list →
      (list.zip others).filter (fun pair => decide (pair.1 = name)) = [] := by
    intro list others hmem
    rw [List.filter_eq_nil_iff]
    intro pair hpair hsame
    rw [decide_eq_true_eq] at hsame
    exact hmem (hsame ▸ (List.of_mem_zip hpair).1)
  have hnames : names = names.take i ++ name :: names.drop (i + 1) := by
    rw [← hget, ← List.drop_eq_getElem_cons hlt, List.take_append_drop]
  have hentries : entries = entries.take i ++ c :: entries.drop (i + 1) := by
    rw [← hget', ← List.drop_eq_getElem_cons hlt', List.take_append_drop]
  have hzip : names.zip entries = (names.take i).zip (entries.take i) ++
      (name, c) :: (names.drop (i + 1)).zip (entries.drop (i + 1)) := by
    conv_lhs => rw [hnames, hentries]
    rw [List.zip_append (by rw [List.length_take, List.length_take, hlength]), List.zip_cons_cons]
  rw [entriesCalled, hzip, List.filter_append, hnone _ _ hbefore, List.filter_cons_of_pos (by simp),
    hnone _ _ hafter]
  rfl

theorem called_mem_grouped (h : entriesCalled names entries name = [c]) (hname : name ∈ names) :
    c.called name ∈ grouped names entries := by
  refine List.mem_map.2 ⟨name, List.mem_eraseDups.2 hname, ?_⟩
  rw [h, List.map_cons, List.map_nil, combine_singleton]

/-- Each kind counts its entries without a name from the largest number of a given name on. As long
as the numbers do not run out, the entry gets the next one, whatever stands between it and the
one before, shares it with no other entry, and is merged as it is. -/
theorem merge_numbered (h : merge entries = .ok merged) :
    ∃ named, nameAll entries = .ok named ∧ named.length = entries.length ∧
      ∀ kind, maxSuffix kind.stem (entries.filterMap (·.name?)) +
          entries.countP (isUnnamed kind) < 4294967295 →
        ∀ i c, entries[i]? = some c → isUnnamed kind c = true →
          ∃ name, name = kind.stem ++ Nat.repr
              (maxSuffix kind.stem (entries.filterMap (·.name?)) +
                (entries.take (i + 1)).countP (isUnnamed kind)) ∧
            named[i]? = some ⟨name, c.called name⟩ ∧
            (∀ k other, named[k]? = some other → other.name = name → k = i) ∧
            c.called name ∈ merged := by
  obtain ⟨names, hnames, rfl⟩ := (merge_eq_ok_iff _ _).1 h
  have hmap := map_name_withNames hnames.1
  refine ⟨withNames names entries, (nameAll_eq_ok_iff _ _).2 ⟨names, hnames, rfl⟩, ?_, ?_⟩
  · rw [← hnames.1, ← congrArg List.length hmap, List.length_map]
  · intro kind hroom i c hentry hc
    have hlt : i < names.length := hnames.1 ▸ (List.getElem?_eq_some_iff.1 hentry).1
    have hplace : names[i]? = some names[i] := List.getElem?_eq_getElem hlt
    have honly : ∀ k, names[k]? = some names[i] → k = i := fun k hk =>
      eq_of_name_eq hnames hroom hentry hc hplace hk
    refine ⟨names[i], name_eq_of_isUnnamed hnames hroom hentry hc hplace, ?_, ?_, ?_⟩
    · rw [withNames, List.getElem?_zipWith, hplace, hentry]
    · intro k other hk hsame
      have hkth : ((withNames names entries).map (·.name))[k]? = some other.name := by
        rw [List.getElem?_map, hk, Option.map_some]
      rw [hmap, hsame] at hkth
      exact honly k hkth
    · exact called_mem_grouped (entriesCalled_eq_singleton hnames.1 hentry hplace honly)
        (List.getElem_mem hlt)

/-- Two unique columns without names, with a foreign key between them and a given name that brings
the number 4. -/
def orderEntries : List Constraint := [
  onColumn none .unique "CODE", onColumn (some "UQ_<TABLE_NAME>_4") .unique "NUMBER",
  reference none "ITEM" "ITEMS" "ID", onColumn none .unique "BARCODE"]

theorem merge_numbered_orders :
    maxSuffix "UQ_<TABLE_NAME>_" ["UQ_<TABLE_NAME>_4"] +
        orderEntries.countP (isUnnamed .unique) < 4294967295 ∧
    ∃ merged named, merge orderEntries = .ok merged ∧ nameAll orderEntries = .ok named ∧
      (named[3]?).map (·.name) = some "UQ_<TABLE_NAME>_6" ∧
      (∀ k other, named[k]? = some other → other.name = "UQ_<TABLE_NAME>_6" → k = 3) ∧
      (onColumn none .unique "BARCODE").called "UQ_<TABLE_NAME>_6" ∈ merged := by
  have hmerge : merge orderEntries = .ok [
      { onColumn (some "UQ_<TABLE_NAME>_5") .unique "CODE" with generatedName := true },
      onColumn (some "UQ_<TABLE_NAME>_4") .unique "NUMBER",
      { reference (some "FK_<TABLE_NAME>_1") "ITEM" "ITEMS" "ID" with generatedName := true },
      { onColumn (some "UQ_<TABLE_NAME>_6") .unique "BARCODE" with generatedName := true }] := by
    decide +kernel
  have hroom : maxSuffix "UQ_<TABLE_NAME>_" ["UQ_<TABLE_NAME>_4"] +
      orderEntries.countP (isUnnamed .unique) < 4294967295 := by decide +kernel
  obtain ⟨named, hnamed, -, hnumbered⟩ := merge_numbered hmerge
  obtain ⟨name, hname, hplace, honly, hmerged⟩ :=
    hnumbered .unique hroom 3 (onColumn none .unique "BARCODE") rfl (by decide)
  obtain rfl : name = "UQ_<TABLE_NAME>_6" := hname.trans (by decide +kernel)
  exact ⟨hroom, _, named, hmerge, hnamed, by rw [hplace]; rfl, honly, hmerged⟩

end Constraint

end SchemaScript
