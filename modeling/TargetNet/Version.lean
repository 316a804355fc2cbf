import TargetNet.Decimal.Numeral
import TargetNet.Text.Blank

/-!
# Package versions

An installed package's version reduced to its leading numbers `major.minor.micro`. The three numbers
packed into one, for the log, and the text of the package database are kept beside them. Versions are
ordered by the three numbers.
-/

namespace TargetNet

namespace Version

/-- The largest share that one number has in the packed one. -/
def semanticLimit : Nat := 999

/-- Three numbers packed into one, each cut off at `semanticLimit`. -/
def pack (major minor micro : UInt64) : Nat :=
  min major.toNat semanticLimit * 1000000 + min minor.toNat semanticLimit * 1000 +
    min micro.toNat semanticLimit

end Version

/-- A version reduced to three numbers, with the text it was read from. -/
structure Version where
  major : UInt64
  minor : UInt64
  micro : UInt64
  /-- The three numbers in one. -/
  semantic : Nat
  raw : String
  packed : semantic = Version.pack major minor micro
  deriving DecidableEq, Repr

namespace Version

/-- The version with these numbers that was read from a text. -/
def withText (major minor micro : UInt64) (raw : String) : Version :=
  ⟨major, minor, micro, pack major minor micro, raw, rfl⟩

/-- The three numbers. -/
inductive Part where
  | major
  | minor
  | micro
  deriving DecidableEq, Repr

/-- What a number is called. -/
def Part.name : Part → String
  | .major => "major"
  | .minor => "minor"
  | .micro => "micro"

/-- Why a text is not the version of a package. -/
inductive ParseError where
  /-- The number has no digits although it must have some. -/
  | missing (part : Part) (raw : String)
  /-- The number does not fit into 64 bits. -/
  | tooLarge (part : Part) (raw : String)
  deriving DecidableEq, Repr

/-- The wording of a parse error. -/
def ParseError.message : ParseError → String
  | .missing part raw => "No numeric " ++ part.name ++ " component in version '" ++ raw ++ "'"
  | .tooLarge part raw =>
    "Invalid " ++ part.name ++ " component in version '" ++ raw ++
      "': number too large to fit in target type"

/-- Three numbers with dots between them. -/
def dotted (major minor micro : UInt64) : String :=
  String.ofList (Decimal.ofNat major.toNat ++ '.' :: (Decimal.ofNat minor.toNat ++
    '.' :: Decimal.ofNat micro.toNat))

/-- The version with these numbers. -/
def ofNumbers (major minor micro : UInt64) : Version :=
  withText major minor micro (dotted major minor micro)

/-- The numbers of a version with dots between them. -/
def display (v : Version) : String :=
  dotted v.major v.minor v.micro

/-- A text without an epoch: what follows its first colon, if it has one. -/
def withoutEpoch (cs : List Char) : List Char :=
  match cs.dropWhile (· != ':') with
  | [] => cs
  | _ :: rest => rest

/-- A text without a revision: what comes before its last hyphen, if it has one. -/
def withoutRevision (cs : List Char) : List Char :=
  match cs.reverse.dropWhile (· != '-') with
  | [] => cs
  | _ :: rest => rest.reverse

/-- A character of the numeric part. -/
def isNumeric (c : Char) : Bool :=
  Decimal.isDigit c || c == '.'

/-- The numeric part that a text starts with, without dots at its end. -/
def numericPart (cs : List Char) : List Char :=
  ((cs.takeWhile isNumeric).reverse.dropWhile (· == '.')).reverse

/-- The pieces of a text between dots; always one more than there are dots. -/
def dotPieces : List Char → List (List Char)
  | [] => [[]]
  | c :: rest =>
    if c = '.' then [] :: dotPieces rest
    else
      match dotPieces rest with
      | [] => [[c]]
      | piece :: more => (c :: piece) :: more

/-- The number that a run of digits spells. -/
def number (part : Part) (raw : String) (digits : List Char) : Except ParseError UInt64 :=
  match Decimal.value? 10 digits with
  | some n => if h : n < UInt64.size then .ok (UInt64.ofNatLT n h) else .error (.tooLarge part raw)
  | none => .error (.tooLarge part raw)

/-- A number that must be there. -/
def required (part : Part) (raw : String) (digits : List Char) : Except ParseError UInt64 :=
  if digits = [] then .error (.missing part raw) else number part raw digits

/-- A number that is zero when it is missing or empty. -/
def optional (part : Part) (raw : String) : Option (List Char) → Except ParseError UInt64
  | none => .ok 0
  | some digits => if digits = [] then .ok 0 else number part raw digits

/-- Reduces the version of a package to its numbers: surrounding white space, an epoch, a revision,
further dotted parts and whatever follows the numbers are left out. -/
def parse (raw : String) : Except ParseError Version := do
  let numeric := numericPart (withoutRevision (withoutEpoch (Text.trim raw.toList)))
  let pieces := dotPieces numeric
  let major ← required .major raw (pieces.head?.getD [])
  let minor ← optional .minor raw pieces[1]?
  let micro ← optional .micro raw pieces[2]?
  return withText major minor micro raw

/-- Lexicographic comparison of the three numbers. -/
def compare (a b : Version) : Ordering :=
  (Ord.compare a.major b.major).then
    ((Ord.compare a.minor b.minor).then (Ord.compare a.micro b.micro))

/-- The comparison for callers that allow for values without an order. Versions have one always. -/
def partialCompare (a b : Version) : Option Ordering :=
  some (compare a b)

instance : Ord Version := ⟨compare⟩

/-- Whether a version comes strictly before another. -/
def isOlderThan (a b : Version) : Bool :=
  compare a b == .lt

/-- The greater of two versions, the second when they compare equal. -/
def greater (a b : Version) : Version :=
  if compare a b == .gt then a else b

end Version

end TargetNet
