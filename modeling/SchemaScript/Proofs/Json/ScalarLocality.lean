import SchemaScript.Proofs.Json.Scalars
import SchemaScript.Proofs.StatementError

/-! Strings and numbers are read the same whatever follows them. What follows a number has to end it,
as a comma, a closing bracket or the end of the text does: anything else could belong to it. -/

namespace SchemaScript.Json

variable {α β : Type} {more : List Char}

/-- What `step` reads from a text, `wider` reads from the text with `more` behind it. -/
def CarriesOver (more : List Char) (step wider : Step α) : Prop :=
  ∀ input value rest, step input = .ok (value, rest) →
    wider (input ++ more) = .ok (value, rest ++ more)

/-! ### Steps one after another -/

theorem carriesOver_ok (value : α) :
    CarriesOver more (fun rest => .ok (value, rest)) (fun rest => .ok (value, rest)) := by
  intro input result rest h
  cases h
  rfl

theorem CarriesOver.bind {step wider : Step α} {next next' : α → Step β}
    (h : CarriesOver more step wider)
    (hnext : ∀ value, CarriesOver more (next value) (next' value)) :
    CarriesOver more (fun input => step input >>= fun (value, rest) => next value rest)
      (fun input => wider input >>= fun (value, rest) => next' value rest) := by
  intro input result rest hread
  obtain ⟨⟨value, middle⟩, hfirst, hsecond⟩ := bind_eq_ok_iff.1 hread
  have hwider := hnext value middle result rest hsecond
  simp only [h _ _ _ hfirst, Bind.bind, Except.bind, hwider]

/-! ### Words and strings -/

theorem readWord_carriesOver (value : Json) (word : List Char) :
    CarriesOver more (readWord value word) (readWord value word) := by
  induction word with
  | nil =>
    intro input result rest h
    cases h
    rfl
  | cons c word ih =>
    intro input result rest h
    cases input with
    | nil => contradiction
    | cons d input =>
      rw [readWord] at h
      rw [List.cons_append, readWord]
      split at h
      next hc => rw [if_pos hc, ih input result rest h]
      next => contradiction

theorem readUnit_carriesOver : CarriesOver more readUnit readUnit := by
  intro input value rest h
  unfold readUnit at h
  split at h
  next a b c d tail =>
    split at h
    next ha hb hc hd =>
      cases h
      simp only [readUnit, List.cons_append, ha, hb, hc, hd]
    next => contradiction
  next => split at h <;> contradiction

theorem expect_carriesOver (c : Char) : CarriesOver more (expect c) (expect c) := by
  intro input value rest h
  cases input with
  | nil => contradiction
  | cons d input =>
    unfold expect at h ⊢
    simp only [List.cons_append] at h ⊢
    split at h
    next hc =>
      cases h
      rw [if_pos hc]
    next => contradiction

theorem readUnicode_carriesOver : CarriesOver more readUnicode readUnicode := by
  intro input value rest h
  simp only [readUnicode, bind_eq_ok_iff] at h
  obtain ⟨⟨high, rest₁⟩, hhigh, h⟩ := h
  simp only [readUnicode, readUnit_carriesOver _ _ _ hhigh, bind, Except.bind]
  split at h
  next => contradiction
  next hlone =>
    rw [if_neg hlone]
    split at h
    next hpair =>
      rw [if_pos hpair]
      obtain ⟨⟨⟨⟩, rest₂⟩, hslash, h⟩ := bind_eq_ok_iff.1 h
      obtain ⟨⟨⟨⟩, rest₃⟩, hu, h⟩ := bind_eq_ok_iff.1 h
      obtain ⟨⟨low, rest₄⟩, hlow, h⟩ := bind_eq_ok_iff.1 h
      simp only [expect_carriesOver _ _ _ _ hslash, expect_carriesOver _ _ _ _ hu,
        readUnit_carriesOver _ _ _ hlow]
      simp only at h
      split at h
      next hin =>
        obtain ⟨rfl, rfl⟩ := Prod.mk.inj (Except.ok.inj h)
        rw [if_pos hin]
      next => contradiction
    next hsingle =>
      obtain ⟨rfl, rfl⟩ := Prod.mk.inj (Except.ok.inj h)
      rw [if_neg hsingle]

theorem readEscape_carriesOver : CarriesOver more readEscape readEscape := by
  intro input value rest h
  unfold readEscape at h
  split at h
  case h_1 | h_11 => contradiction
  case h_2 tail =>
    have hwider : readUnicode (tail ++ more) = .ok (value, rest ++ more) :=
      readUnicode_carriesOver _ _ _ h
    simpa only [List.cons_append, readEscape] using hwider
  all_goals
    cases h
    rfl

/-- More fuel takes no round away. -/
theorem readCharacters_carriesOver {fuel wider : List Char} (hf : fuel.length ≤ wider.length) :
    CarriesOver more (readCharacters fuel) (readCharacters wider) := by
  induction fuel generalizing wider with
  | nil =>
    intro input value rest h
    contradiction
  | cons x fuel ih =>
    obtain ⟨y, wider, rfl⟩ := List.exists_cons_of_length_pos (Nat.lt_of_lt_of_le (by simp) hf)
    have hnext := ih (Nat.le_of_succ_le_succ hf)
    intro input value rest h
    unfold readCharacters at h
    split at h
    next => contradiction
    next =>
      cases h
      rfl
    next tail =>
      exact (readEscape_carriesOver.bind fun c => hnext.bind fun text => carriesOver_ok _) _ _ _ h
    next c tail hquote hslash =>
      split at h
      next => contradiction
      next hcontrol =>
        rw [List.cons_append, readCharacters, if_neg hcontrol]
        · exact (hnext.bind fun text => carriesOver_ok _) _ _ _ h
        · exact hquote
        · exact hslash

theorem readString_carriesOver : CarriesOver more readString readString := by
  intro input value rest h
  have hlength : input.length ≤ (input ++ more).length := by simp
  exact ((readCharacters_carriesOver hlength).bind fun text => carriesOver_ok _) _ _ _ h

/-! ### Numbers -/

/-- The text goes on with none of the characters that go on with a number behind its digits. -/
def LeavesNumber (input : List Char) : Prop := ∀ c ∈ input.head?, c ≠ '.' ∧ c ≠ 'e' ∧ c ≠ 'E'

theorem Ends.leavesNumber_append (hm : Ends more) {input : List Char} (h : LeavesNumber input) :
    LeavesNumber (input ++ more) := by
  intro c hc
  cases input with
  | nil => rcases hm c hc with rfl | rfl | rfl <;> decide
  | cons d input => exact h c hc

theorem leavesNumber_or (input : List Char) :
    LeavesNumber input ∨ ∃ rest, input = '.' :: rest ∨ input = 'e' :: rest ∨ input = 'E' :: rest := by
  cases input with
  | nil => exact .inl fun c hc => by simp at hc
  | cons c rest =>
    by_cases h : c = '.' ∨ c = 'e' ∨ c = 'E'
    · refine .inr ⟨rest, ?_⟩
      rcases h with rfl | rfl | rfl <;> simp
    · refine .inl fun d hd => ?_
      obtain rfl : c = d := by simpa using hd
      simpa [not_or] using h

theorem isEmpty_append_eq_false {input : List Char} (h : ¬input.isEmpty = true)
    (more : List Char) : ¬(input ++ more).isEmpty = true := by
  cases input with
  | nil => exact absurd rfl h
  | cons c input => simp

theorem startsWithDigit_append (hm : Ends more) (input : List Char) :
    startsWithDigit (input ++ more) = startsWithDigit input := by
  cases input with
  | nil => exact hm.startsWithDigit
  | cons c input => rfl

theorem readDigits_append_more (hm : Ends more) (bound value : Nat) (input : List Char) :
    readDigits bound value (input ++ more) =
      ((readDigits bound value input).1, (readDigits bound value input).2 ++ more) := by
  induction input generalizing value with
  | nil =>
    have hdigit := hm.startsWithDigit
    cases more with
    | nil => rfl
    | cons c more =>
      have hc : c.isDigit = false := hdigit
      simp [readDigits, hc]
  | cons c input ih =>
    rw [List.cons_append, readDigits, readDigits]
    split
    · exact ih _
    · rfl

theorem takeWhile_isDigit_append (hm : Ends more) (input : List Char) :
    (input ++ more).takeWhile Char.isDigit = input.takeWhile Char.isDigit := by
  rw [List.takeWhile_append, hm.takeWhile_isDigit, List.append_nil]
  split
  next hall => exact (List.takeWhile_prefix _).eq_of_length hall |>.symm
  next => rfl

theorem dropWhile_isDigit_append (hm : Ends more) (input : List Char) :
    (input ++ more).dropWhile Char.isDigit = input.dropWhile Char.isDigit ++ more := by
  have hmore : more.dropWhile Char.isDigit = more := by
    have hsplit := List.takeWhile_append_dropWhile (p := Char.isDigit) (l := more)
    rwa [hm.takeWhile_isDigit, List.nil_append] at hsplit
  rw [List.dropWhile_append, hmore]
  split
  next hempty => rw [List.isEmpty_iff.1 hempty, List.nil_append]
  next => rfl

theorem finish_carriesOver (negative : Bool) (significand : Nat) (exponent : Int) :
    CarriesOver more (finish negative significand exponent)
      (finish negative significand exponent) := by
  intro input value rest h
  unfold finish at h ⊢
  split at h
  next x hx =>
    obtain ⟨rfl, rfl⟩ := Prod.mk.inj (Except.ok.inj h)
    rfl
  next => contradiction

/-- Whether an exponent is below zero, and its digits. -/
def exponentSign : List Char → Bool × List Char
  | '+' :: rest => (false, rest)
  | '-' :: rest => (true, rest)
  | rest => (false, rest)

theorem exponentSign_append {input : List Char} (h : input ≠ []) (more : List Char) :
    exponentSign (input ++ more) = ((exponentSign input).1, (exponentSign input).2 ++ more) := by
  cases input with
  | nil => contradiction
  | cons c input =>
    by_cases hplus : c = '+'
    · subst hplus
      rfl
    by_cases hminus : c = '-'
    · subst hminus
      rfl
    have hother : ∀ rest, exponentSign (c :: rest) = (false, c :: rest) := by
      intro rest
      unfold exponentSign
      split <;> simp_all
    rw [List.cons_append, hother, hother, List.cons_append]

/-- The exponent behind its sign. -/
def readPower (negative : Bool) (significand : Nat) (moved : Int) (down : Bool) : Step Json :=
  fun digits =>
    if digits.isEmpty then stopAt .openValue []
    else if !startsWithDigit digits then stopAt .invalidNumber digits
    else
      let (value, rest) := readDigits exponentBound 0 digits
      if startsWithDigit rest then
        if significand ≠ 0 && !down then stopAt .numberOutOfRange rest
        else .ok (signed negative 0.0, rest.dropWhile Char.isDigit)
      else finish negative significand (if down then moved - value else moved + value) rest

theorem readExponent_eq (negative : Bool) (significand : Nat) (moved : Int) (input : List Char) :
    readExponent negative significand moved input =
      readPower negative significand moved (exponentSign input).1 (exponentSign input).2 := rfl

theorem readPower_carriesOver (hm : Ends more) (negative : Bool) (significand : Nat) (moved : Int)
    (down : Bool) :
    CarriesOver more (readPower negative significand moved down)
      (readPower negative significand moved down) := by
  intro digits value rest h
  unfold readPower at h ⊢
  rw [startsWithDigit_append hm, readDigits_append_more hm]
  split at h
  next => contradiction
  next hempty =>
    rw [if_neg (isEmpty_append_eq_false hempty more)]
    split at h
    next => contradiction
    next hdigit =>
      rw [if_neg hdigit]
      simp only [startsWithDigit_append hm] at h ⊢
      split at h
      next hmany =>
        rw [if_pos hmany]
        split at h
        next => contradiction
        next hsmall =>
          cases h
          rw [if_neg hsmall, dropWhile_isDigit_append hm]
      next hfew =>
        rw [if_neg hfew]
        exact finish_carriesOver _ _ _ _ _ _ h

theorem readExponent_carriesOver (hm : Ends more) (negative : Bool) (significand : Nat)
    (moved : Int) :
    CarriesOver more (readExponent negative significand moved)
      (readExponent negative significand moved) := by
  intro input value rest h
  rw [readExponent_eq] at h ⊢
  cases input with
  | nil => contradiction
  | cons c input =>
    rw [exponentSign_append (List.cons_ne_nil c input)]
    exact readPower_carriesOver hm _ _ _ _ _ _ _ h

theorem readTail_eq_finish (negative : Bool) (significand : Nat) (moved : Int) {input : List Char}
    (h : LeavesNumber input) :
    readTail negative significand moved input = finish negative significand moved input := by
  unfold readTail
  split
  next => exact absurd rfl (h 'e' rfl).2.1
  next => exact absurd rfl (h 'E' rfl).2.2
  next => rfl

theorem readTail_carriesOver (hm : Ends more) (negative : Bool) (significand : Nat) (moved : Int) :
    CarriesOver more (readTail negative significand moved)
      (readTail negative significand moved) := by
  intro input value rest h
  rcases leavesNumber_or input with hleaves | ⟨tail, rfl | rfl | rfl⟩
  · rw [readTail_eq_finish _ _ _ hleaves] at h
    rw [readTail_eq_finish _ _ _ (hm.leavesNumber_append hleaves)]
    exact finish_carriesOver _ _ _ _ _ _ h
  · exact finish_carriesOver _ _ _ ('.' :: tail) _ _ h
  · exact readExponent_carriesOver hm _ _ _ _ _ _ h
  · exact readExponent_carriesOver hm _ _ _ _ _ _ h

theorem readFraction_carriesOver (hm : Ends more) (negative : Bool) (significand : Nat)
    (moved : Int) :
    CarriesOver more (readFraction negative significand moved)
      (readFraction negative significand moved) := by
  intro input value rest h
  unfold readFraction at h ⊢
  rw [startsWithDigit_append hm, readDigits_append_more hm]
  split at h
  next => contradiction
  next hempty =>
    rw [if_neg (isEmpty_append_eq_false hempty more)]
    split at h
    next => contradiction
    next hdigit =>
      rw [if_neg hdigit]
      have hwider := readTail_carriesOver hm _ _ _ _ _ _ h
      have hlength : ∀ n k : Nat, ((n + more.length : Nat) : Int) - (k + more.length : Nat) =
          n - k := by
        intro n k
        omega
      simp only [dropWhile_isDigit_append hm, List.length_append, hlength]
      exact hwider

/-- What may follow the digits before the point, of which `dropped` did not fit. -/
def readAfterDigits (negative : Bool) (value dropped : Nat) : Step Json := fun input =>
  match input with
  | '.' :: rest => readFraction negative value dropped rest
  | 'e' :: rest | 'E' :: rest => readExponent negative value dropped rest
  | rest =>
    if dropped = 0 then .ok (integer negative value, rest) else finish negative value dropped rest

theorem readAfterDigits_of_leavesNumber (negative : Bool) (value dropped : Nat)
    {input : List Char} (h : LeavesNumber input) :
    readAfterDigits negative value dropped input =
      if dropped = 0 then .ok (integer negative value, input)
      else finish negative value dropped input := by
  unfold readAfterDigits
  split
  next => exact absurd rfl (h '.' rfl).1
  next => exact absurd rfl (h 'e' rfl).2.1
  next => exact absurd rfl (h 'E' rfl).2.2
  next => rfl

theorem readAfterDigits_carriesOver (hm : Ends more) (negative : Bool) (value dropped : Nat) :
    CarriesOver more (readAfterDigits negative value dropped)
      (readAfterDigits negative value dropped) := by
  intro input result rest h
  rcases leavesNumber_or input with hleaves | ⟨tail, rfl | rfl | rfl⟩
  · rw [readAfterDigits_of_leavesNumber _ _ _ hleaves] at h
    rw [readAfterDigits_of_leavesNumber _ _ _ (hm.leavesNumber_append hleaves)]
    split at h
    next hzero =>
      obtain ⟨rfl, rfl⟩ := Prod.mk.inj (Except.ok.inj h)
      rw [if_pos hzero]
    next hzero =>
      rw [if_neg hzero]
      exact finish_carriesOver _ _ _ _ _ _ h
  · exact readFraction_carriesOver hm _ _ _ _ _ _ h
  · exact readExponent_carriesOver hm _ _ _ _ _ _ h
  · exact readExponent_carriesOver hm _ _ _ _ _ _ h

/-- A number begins with a digit, and with a zero only if no further digit follows. -/
theorem readUnsigned_cons_eq_ok_iff {negative : Bool} {c : Char} {input : List Char}
    {result : Json × List Char} :
    readUnsigned negative (c :: input) = .ok result ↔
      c.isDigit = true ∧ ¬(c = '0' ∧ startsWithDigit input = true) ∧
        readAfterDigits negative (readDigits significandBound 0 (c :: input)).1
          ((readDigits significandBound 0 (c :: input)).2.takeWhile Char.isDigit).length
          ((readDigits significandBound 0 (c :: input)).2.drop
            ((readDigits significandBound 0 (c :: input)).2.takeWhile Char.isDigit).length) =
          .ok result := by
  have hread : readUnsigned negative (c :: input) =
      if !c.isDigit then stopAt .invalidNumber (c :: input)
      else if (c :: input).head? = some '0' && startsWithDigit input then
        stopAt .invalidNumber input
      else readAfterDigits negative (readDigits significandBound 0 (c :: input)).1
        ((readDigits significandBound 0 (c :: input)).2.takeWhile Char.isDigit).length
        ((readDigits significandBound 0 (c :: input)).2.drop
          ((readDigits significandBound 0 (c :: input)).2.takeWhile Char.isDigit).length) := rfl
  rw [hread]
  by_cases hdigit : c.isDigit = true
  · by_cases hzero : c = '0' ∧ startsWithDigit input = true
    · simp [hzero, stopAt]
    · have hcond : ¬(decide ((c :: input).head? = some '0') && startsWithDigit input) = true := by
        simpa using hzero
      rw [if_neg (by simp [hdigit]), if_neg hcond]
      simp only [hdigit, hzero, not_false_eq_true, true_and]
  · simp [hdigit, stopAt]

theorem readUnsigned_carriesOver (hm : Ends more) (negative : Bool) :
    CarriesOver more (readUnsigned negative) (readUnsigned negative) := by
  intro input value rest h
  cases input with
  | nil => contradiction
  | cons c input =>
    obtain ⟨hdigit, hzero, htail⟩ := readUnsigned_cons_eq_ok_iff.1 h
    rw [List.cons_append, readUnsigned_cons_eq_ok_iff, ← List.cons_append,
      readDigits_append_more hm, startsWithDigit_append hm, takeWhile_isDigit_append hm,
      List.drop_append_of_le_length (List.takeWhile_prefix _).length_le]
    exact ⟨hdigit, hzero, readAfterDigits_carriesOver hm _ _ _ _ _ _ htail⟩

theorem readNumber_carriesOver (hm : Ends more) : CarriesOver more readNumber readNumber := by
  intro input value rest h
  unfold readNumber at h
  split at h
  next tail => exact readUnsigned_carriesOver hm true _ _ _ h
  next hminus =>
    have hwider := readUnsigned_carriesOver hm false _ _ _ h
    unfold readNumber
    split
    next tail heq =>
      cases input with
      | nil => contradiction
      | cons c input =>
        obtain ⟨rfl, -⟩ := List.cons.inj heq
        exact absurd rfl (hminus input)
    next => exact hwider

end SchemaScript.Json
