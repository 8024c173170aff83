import SchemaScript.Json.Fault
import SchemaScript.Json.Value

/-! Reading JSON numbers. The digits are collected in a significand of 64 bits; digits that do not
fit only move the decimal point. An integer that fits 64 bits is kept as it is, and every other
number is the significand scaled by a power of ten in double precision. -/

namespace SchemaScript.Json

abbrev Step (α : Type) := List Char → Except Stop (α × List Char)

/-- Stops at the next byte, or at the end of the text. -/
def stopAt {α : Type} (cause : Cause) (rest : List Char) : Except Stop α := .error ⟨cause, rest, 1⟩

def significandBound : Nat := 18446744073709551616

def exponentBound : Nat := 2147483648

def digitValue (c : Char) : Nat := c.toNat - 48

/-- Reads digits into a number as long as it stays below `bound`. -/
def readDigits (bound value : Nat) : List Char → Nat × List Char
  | [] => (value, [])
  | c :: rest =>
    if c.isDigit && 10 * value + digitValue c < bound then
      readDigits bound (10 * value + digitValue c) rest
    else (value, c :: rest)

def startsWithDigit : List Char → Bool
  | [] => false
  | c :: _ => c.isDigit

def powerOfTen (n : Nat) : Float := Float.ofScientific 1 false n

/-- `x / 10^n`, in steps that a double can hold. -/
def divideByPower (x : Float) (n : Nat) : Float :=
  if n ≤ 308 then x / powerOfTen n
  else if x == 0.0 then x
  else divideByPower (x / powerOfTen 308) (n - 308)
termination_by n

/-- `significand · 10^exponent`; `none` when that is beyond double precision. -/
def scale? (significand : Nat) (exponent : Int) : Option Float :=
  let x := (UInt64.ofNat significand).toFloat
  if exponent < 0 then some (divideByPower x exponent.natAbs)
  else if exponent ≤ 308 then
    let y := x * powerOfTen exponent.natAbs
    if y.isInf then none else some y
  else if x == 0.0 then some x
  else none

def signed (negative : Bool) (x : Float) : Json := float (if negative then -x else x)

def finish (negative : Bool) (significand : Nat) (exponent : Int) : Step Json := fun rest =>
  match scale? significand exponent with
  | some x => .ok (signed negative x, rest)
  | none => .error ⟨.numberOutOfRange, rest, 0⟩

/-- The exponent behind `e`, added to what the point and the dropped digits have moved. -/
def readExponent (negative : Bool) (significand : Nat) (moved : Int) : Step Json := fun input =>
  let (down, digits) := match input with
    | '+' :: rest => (false, rest)
    | '-' :: rest => (true, rest)
    | rest => (false, rest)
  if digits.isEmpty then stopAt .openValue []
  else if !startsWithDigit digits then stopAt .invalidNumber digits
  else
    let (value, rest) := readDigits exponentBound 0 digits
    if startsWithDigit rest then
      if significand ≠ 0 && !down then stopAt .numberOutOfRange rest
      else .ok (signed negative 0.0, rest.dropWhile Char.isDigit)
    else finish negative significand (if down then moved - value else moved + value) rest

/-- What may follow the last digit of the significand. -/
def readTail (negative : Bool) (significand : Nat) (moved : Int) : Step Json := fun input =>
  match input with
  | 'e' :: rest | 'E' :: rest => readExponent negative significand moved rest
  | rest => finish negative significand moved rest

/-- The digits behind the decimal point. -/
def readFraction (negative : Bool) (significand : Nat) (moved : Int) : Step Json := fun input =>
  if input.isEmpty then stopAt .openValue []
  else if !startsWithDigit input then stopAt .invalidNumber input
  else
    let (value, rest) := readDigits significandBound significand input
    readTail negative value (moved - (input.length - rest.length)) (rest.dropWhile Char.isDigit)

/-- An integer of 64 bits; minus zero and what is below the signed range count as fractions. -/
def integer (negative : Bool) (value : Nat) : Json :=
  if !negative then int value
  else if value = 0 || 9223372036854775808 < value then
    signed true (UInt64.ofNat value).toFloat
  else int (-value)

def readUnsigned (negative : Bool) : Step Json := fun input =>
  if input.isEmpty then stopAt .openValue []
  else if !startsWithDigit input then stopAt .invalidNumber input
  else if input.head? = some '0' && startsWithDigit input.tail then
    stopAt .invalidNumber input.tail
  else
    let (value, rest) := readDigits significandBound 0 input
    let dropped := (rest.takeWhile Char.isDigit).length
    match rest.drop dropped with
    | '.' :: rest => readFraction negative value dropped rest
    | 'e' :: rest | 'E' :: rest => readExponent negative value dropped rest
    | rest =>
      if dropped = 0 then .ok (integer negative value, rest)
      else finish negative value dropped rest

def readNumber : Step Json
  | '-' :: rest => readUnsigned true rest
  | input => readUnsigned false input

end SchemaScript.Json
