import SchemaScript.Decimal.Shortest

/-! How a number with a binary fraction is written: its shortest decimal, with the point in place
for middling exponents and in scientific form for the others. -/

namespace SchemaScript.Decimal

/-- Exponents of the first digit that are written with the point in place. -/
structure PointRange where
  least : Int
  greatest : Int

def zeros (n : Nat) : String := .ofList (List.replicate n '0')

def Scientific.write (range : PointRange) (s : Scientific) : String :=
  let digits := Nat.repr s.digits
  let count := digits.length
  let leading := s.exponent + count - 1
  if leading < range.least || range.greatest < leading then
    let mantissa := match digits.toList with
      | first :: second :: rest => String.ofList (first :: '.' :: second :: rest)
      | short => .ofList short
    mantissa ++ "e" ++ (if leading < 0 then "-" else "+") ++ Nat.repr leading.natAbs
  else if 0 ≤ s.exponent then digits ++ zeros s.exponent.toNat ++ ".0"
  else if leading < 0 then "0." ++ zeros (-leading - 1).toNat ++ digits
  else
    .ofList (digits.toList.take (leading.toNat + 1)) ++ "." ++
      .ofList (digits.toList.drop (leading.toNat + 1))

/-- A finite number of double precision; what has all exponent bits set is not written. -/
def writeFloat (range : PointRange) (x : Float) : String :=
  let bits : Nat := x.toBits.toNat
  let sign := if bits / Nat.pow 2 63 = 1 then "-" else ""
  let field : Nat := bits / Nat.pow 2 52 % 2048
  let fraction : Nat := bits % Nat.pow 2 52
  let text :=
    if field = 0 then
      if fraction = 0 then "0.0" else (shortest fraction (-1074) false).write range
    else
      let narrow := fraction = 0 && 1 < field
      (shortest (Nat.pow 2 52 + fraction) ((field : Int) - 1075) narrow).write range
  sign ++ text

end SchemaScript.Decimal
