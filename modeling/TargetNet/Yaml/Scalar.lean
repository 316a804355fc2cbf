import TargetNet.Yaml.Value

/-!
# Plain scalars

What an unquoted text stands for: null, a truth value, an integer, a floating-point number, or else
the text itself. An integer is decimal, or hexadecimal, octal or binary after `0x`, `0o` or `0b`.
Digits after a leading zero are text. Integers of more than 64 but at most 128 bits are refused, and
longer ones are floating-point numbers.
-/

namespace TargetNet.Yaml.Scalar

open Decimal (twoTo)

/-- The spellings of null, the empty text apart. -/
def isNull (s : String) : Bool :=
  s == "~" || s == "null" || s == "Null" || s == "NULL"

/-- The truth value that a text spells. -/
def bool? (s : String) : Option Bool :=
  if s == "true" || s == "True" || s == "TRUE" then some true
  else if s == "false" || s == "False" || s == "FALSE" then some false
  else none

/-- A text without a leading plus or minus. -/
def withoutSign : List Char → List Char
  | '+' :: rest | '-' :: rest => rest
  | cs => cs

/-- Digits after a leading zero, which are text and no number. -/
def isZeroPadded (cs : List Char) : Bool :=
  match withoutSign cs with
  | '0' :: rest => !rest.isEmpty && rest.all Decimal.isDigit
  | _ => false

/-- The base that a text announces, and the digits after that. -/
def announced : List Char → Option (Nat × List Char)
  | '0' :: 'x' :: rest => some (16, rest)
  | '0' :: 'o' :: rest => some (8, rest)
  | '0' :: 'b' :: rest => some (2, rest)
  | _ => none

/-- The magnitude of an integer whose sign was taken off; `padded` forbids decimal notation. -/
def magnitude? (padded : Bool) (cs : List Char) : Option Nat :=
  match announced cs with
  | some (base, digits) => Decimal.value? base digits
  | none => if padded then none else Decimal.value? 10 cs

/-- The integer of any size that a text spells. -/
def integer? (cs : List Char) : Option Int :=
  match cs with
  | '-' :: rest => (magnitude? (isZeroPadded cs) rest).map fun n => -(n : Int)
  | '+' :: rest => (magnitude? (isZeroPadded cs) rest).map fun n => (n : Int)
  | _ => (magnitude? (isZeroPadded cs) cs).map fun n => (n : Int)

/-- The two ranges of integers. -/
inductive Size where
  /-- It fits into 64 bits, with or without a sign. -/
  | word
  /-- It fits into 128 bits only. -/
  | double
  /-- It is longer than that. -/
  | huge
  deriving DecidableEq, Repr

/-- The range that an integer lies in. -/
def sizeOf (n : Int) : Size :=
  let within (low high : Nat) : Bool := decide (-(twoTo low : Int) ≤ n) && decide (n < (twoTo high : Int))
  if within 63 64 then .word
  else if within 127 128 then .double
  else .huge

/-- The digits of a decimal fraction with its power of ten: `1.25` gives `125` and `-2`. At least one
digit is needed before or after the point. -/
def mantissa? (cs : List Char) : Option (Nat × Int × List Char) :=
  let whole := cs.takeWhile Decimal.isDigit
  let rest := cs.dropWhile Decimal.isDigit
  let (fraction, rest) := match rest with
    | '.' :: more => (more.takeWhile Decimal.isDigit, more.dropWhile Decimal.isDigit)
    | _ => ([], rest)
  (Decimal.value? 10 (whole ++ fraction)).map fun digits => (digits, -(fraction.length : Int), rest)

/-- The exponent that a text is, or zero for none. -/
def exponent? : List Char → Option Int
  | [] => some 0
  | e :: rest =>
    if e == 'e' || e == 'E' then
      match rest with
      | '-' :: digits => (Decimal.value? 10 digits).map fun n => -(n : Int)
      | '+' :: digits => (Decimal.value? 10 digits).map fun n => (n : Int)
      | digits => (Decimal.value? 10 digits).map fun n => (n : Int)
    else none

/-- The finite number that an unsigned decimal text is nearest to. -/
def finite? (negative : Bool) (cs : List Char) : Option Decimal.Binary64 := do
  let (digits, power, rest) ← mantissa? cs
  let exponent ← exponent? rest
  let x := Decimal.Binary64.ofDecimal negative digits (power + exponent)
  if x.isInfinite then none else some x

/-- The floating-point number that a text spells. -/
def float? (s : String) : Option Decimal.Binary64 :=
  if s == ".inf" || s == ".Inf" || s == ".INF" || s == "+.inf" || s == "+.Inf" || s == "+.INF" then
    some (Decimal.Binary64.infinity false)
  else if s == "-.inf" || s == "-.Inf" || s == "-.INF" then
    some (Decimal.Binary64.infinity true)
  else if s == ".nan" || s == ".NaN" || s == ".NAN" then some Decimal.Binary64.nan
  else
    match s.toList with
    | '-' :: rest => finite? true rest
    | '+' :: rest => finite? false rest
    | cs => finite? false cs

/-- What a plain text stands for; `none` for an integer between 64 and 128 bits. -/
def resolve (s : String) : Option Value :=
  if s.isEmpty || isNull s then some .null
  else
    match bool? s with
    | some b => some (.bool b)
    | none =>
      match (integer? s.toList).map fun n => (n, sizeOf n) with
      | some (n, .word) => some (.int n)
      | some (_, .double) => none
      | _ =>
        if isZeroPadded s.toList then some (.string s)
        else
          match float? s with
          | some x => some (.float x)
          | none => some (.string s)

end TargetNet.Yaml.Scalar
