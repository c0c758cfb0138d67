/-!
# Digits and decimal numerals

A decimal numeral has digits with at most one point among them and may end in an exponent. It stands for
a whole number times a power of ten. Its value in double precision is the nearest one. Very large and very
small numerals are decided by their size alone, so the length of the exponent costs nothing.
-/

namespace Interception

namespace Text

/-- The value of a digit. The letters of bases beyond ten may be small or capital. -/
def digitValue? (base : Nat) (c : Char) : Option Nat :=
  let value :=
    if '0' ≤ c ∧ c ≤ '9' then c.toNat - '0'.toNat
    else if 'a' ≤ c ∧ c ≤ 'z' then c.toNat - 'a'.toNat + 10
    else if 'A' ≤ c ∧ c ≤ 'Z' then c.toNat - 'A'.toNat + 10
    else base
  if value < base then some value else none

/-- Whether a character is a digit of the base. -/
def isDigitOf (base : Nat) (c : Char) : Bool := (digitValue? base c).isSome

/-- The number that a non-empty run of digits writes. -/
def digits? (base : Nat) (cs : List Char) : Option Nat :=
  if cs.isEmpty then none
  else cs.foldlM (fun n c => (digitValue? base c).map (base * n + ·)) 0

end Text

/-- A whole number times a power of ten, with a sign that zero has as well. -/
structure Decimal where
  /-- Whether the numeral begins with a minus sign. -/
  isNegative : Bool
  /-- The digits without the point. -/
  digits : Nat
  /-- The power of ten by which the digits count. -/
  exponent : Int

namespace Decimal

/-- Splits an optional sign off. -/
def splitSign : List Char → Bool × List Char
  | '-' :: rest => (true, rest)
  | '+' :: rest => (false, rest)
  | rest => (false, rest)

/-- Reads the part after the digits: nothing, or a mark and an exponent with at least one digit. -/
def readExponent? : List Char → Option Int
  | [] => some 0
  | mark :: rest =>
    if mark = 'e' ∨ mark = 'E' then
      let (isNegative, digits) := splitSign rest
      (Text.digits? 10 digits).map fun n => if isNegative then -(n : Int) else n
    else none

/-- Reads a numeral. There must be a digit before or after the point. -/
def read? (cs : List Char) : Option Decimal := do
  let (isNegative, body) := splitSign cs
  let whole := body.takeWhile (Text.isDigitOf 10)
  let (fraction, rest) := match body.dropWhile (Text.isDigitOf 10) with
    | '.' :: rest => (rest.takeWhile (Text.isDigitOf 10), rest.dropWhile (Text.isDigitOf 10))
    | rest => ([], rest)
  let digits ← Text.digits? 10 (whole ++ fraction)
  let exponent ← readExponent? rest
  some { isNegative, digits, exponent := exponent - fraction.length }

/-- The magnitude in double precision. Beyond the powers of ten that are told apart here every number
rounds to zero or to infinity. -/
def magnitude (d : Decimal) : Float :=
  let size : Int := d.exponent + (toString d.digits).length
  if d.digits = 0 then 0
  else if size > 400 then 1 / 0
  else if size < -400 then 0
  else if 0 ≤ d.exponent then Float.ofScientific d.digits false d.exponent.toNat
  else Float.ofScientific d.digits true (-d.exponent).toNat

/-- The nearest number in double precision. -/
def toFloat (d : Decimal) : Float := if d.isNegative then -d.magnitude else d.magnitude

/-- The exact decimal expansion of a finite number in double precision, with a point and a digit after it
at least. The sign of zero is kept. -/
def expand (x : Float) : String :=
  let bits : Nat := x.toBits.toNat
  let exponent : Nat := (bits >>> 52) % 0x800
  let fraction : Nat := bits % 0x10000000000000
  let (m, e) : Nat × Int :=
    if exponent = 0 then (fraction, -1074) else (fraction + 0x10000000000000, (exponent : Int) - 1075)
  let sign := if bits >>> 63 = 1 then "-" else ""
  let places : Nat := (-e).toNat
  let scale := Nat.pow 10 places
  let scaled : Nat := if 0 ≤ e then m <<< e.toNat else m * Nat.pow 5 places
  let below := (toString (scale + scaled % scale)).toList.drop 1
  let shown := (below.reverse.dropWhile (· = '0')).reverse
  sign ++ toString (scaled / scale) ++ "." ++ if shown.isEmpty then "0" else String.ofList shown

end Decimal

end Interception
