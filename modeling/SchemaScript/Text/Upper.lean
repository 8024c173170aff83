import SchemaScript.Text.UpperTable

/-! Upper case of any text. A character may become several: the German sharp s becomes two letters.
-/

namespace SchemaScript.Text

def UpperRun.holds (run : UpperRun) (n : Nat) : Bool :=
  run.first ≤ n && n ≤ run.last && (n - run.first) % run.step == 0

/-- Upper case of a character past ASCII, read off the tables. -/
def upperByTable (c : Char) : List Char :=
  match upperSequences.lookup c.toNat with
  | some codes => codes.map Char.ofNat
  | none =>
    match upperRuns.find? (·.holds c.toNat) with
    | some run => [Char.ofNat (c.toNat + run.shift).toNat]
    | none => [c]

def upperChar (c : Char) : List Char := if c.toNat < 128 then [c.toUpper] else upperByTable c

def upper (s : String) : String := .ofList (s.toList.flatMap upperChar)

theorem upperChar_ascii {c : Char} (h : c.toNat < 128) : upperChar c = [c.toUpper] := by
  simp [upperChar, h]

end SchemaScript.Text
