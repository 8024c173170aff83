import SchemaScript.Calendar.Timestamp
import SchemaScript.Text.Blank

/-! Reading moments. Numbers may have blanks in front and, but for the year's sign, nothing else;
separators follow with blanks in between, and each number is held to its range as soon as it is
read. -/

namespace SchemaScript.Timestamp

inductive ReadError where
  | tooShort
  | invalidCharacter
  | outOfRange
  | trailingInput
  deriving DecidableEq, Repr

def ReadError.message : ReadError → String
  | tooShort => "premature end of input"
  | invalidCharacter => "input contains invalid characters"
  | outOfRange => "input is out of range"
  | trailingInput => "trailing input"

abbrev Scan (α : Type) := List Char → Except ReadError (α × List Char)

def skipBlanks (input : List Char) : List Char := input.dropWhile Text.isBlankChar

/-- The leading digits, as many as `width` where that is given, and what follows them. -/
def takeDigits (width : Option Nat) (input : List Char) : List Char × List Char :=
  let digits := input.takeWhile Char.isDigit
  let digits := match width with
    | some width => digits.take width
    | none => digits
  (digits, input.drop digits.length)

/-- The least number that no reading takes in. -/
def scanBound : Nat := 9223372036854775808

def scanNumber (width : Option Nat) : Scan Nat := fun input =>
  match takeDigits width input with
  | ([], []) => .error .tooShort
  | ([], _ :: _) => .error .invalidCharacter
  | (digits, rest) =>
    let value := Nat.ofDigitChars 10 digits 0
    if value < scanBound then .ok (value, rest) else .error .outOfRange

/-- A number of one or two digits from `least` to `greatest`. -/
def scanField (least greatest : Nat) : Scan Nat := fun input => do
  let (value, rest) ← scanNumber (some 2) (skipBlanks input)
  if least ≤ value && value ≤ greatest then .ok (value, rest) else .error .outOfRange

/-- A year of up to four digits, or of any number of digits behind a sign. -/
def scanYear : Scan Int := fun input => do
  let (year, rest) ← match skipBlanks input with
    | '-' :: rest => do
      let (value, rest) ← scanNumber none rest
      .ok (-(value : Int), rest)
    | '+' :: rest => do
      let (value, rest) ← scanNumber none rest
      .ok ((value : Int), rest)
    | rest => do
      let (value, rest) ← scanNumber (some 4) rest
      .ok ((value : Int), rest)
  if -2147483648 ≤ year && year ≤ 2147483647 then .ok (year, rest) else .error .outOfRange

/-- A separator with optional blanks in front. -/
def scanMark (mark : Char) : Scan Unit := fun input =>
  match skipBlanks input with
  | [] => .error .tooShort
  | c :: rest => if c = mark then .ok ((), rest) else .error .invalidCharacter

/-- The fraction of a second in nanoseconds; digits past the ninth are dropped. -/
def scanFraction : Scan Nat := fun input =>
  match input with
  | '.' :: rest => do
    let (value, after) ← scanNumber (some 9) rest
    .ok (value * Nat.pow 10 (9 - (rest.length - after.length)), after.dropWhile Char.isDigit)
  | rest => .ok (0, rest)

def read (text : String) : Except ReadError Timestamp := do
  let (year, rest) ← scanYear text.toList
  let ((), rest) ← scanMark '-' rest
  let (month, rest) ← scanField 1 12 rest
  let ((), rest) ← scanMark '-' rest
  let (day, rest) ← scanField 1 31 rest
  let ((), rest) ← scanMark 'T' rest
  let (hour, rest) ← scanField 0 23 rest
  let ((), rest) ← scanMark ':' rest
  let (minute, rest) ← scanField 0 59 rest
  let ((), rest) ← scanMark ':' rest
  let (second, rest) ← scanField 0 60 rest
  let (nanosecond, rest) ← scanFraction rest
  match skipBlanks rest with
  | _ :: _ => .error .trailingInput
  | [] =>
    if h : IsDate year month day ∧ IsTime hour minute second nanosecond then
      .ok ⟨year, month, day, hour, minute, second, nanosecond, h.1, h.2⟩
    else .error .outOfRange

end SchemaScript.Timestamp
