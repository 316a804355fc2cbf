import TargetNet.Yaml.Value
import TargetNet.Text.Quoted
import TargetNet.Decimal.Numeral

/-!
# Typed reading

Turning a document value into a value of a given type, or saying where it does not fit (`Mismatch`).
There are two ways to read. A document reads leniently: tags hardly matter, and null is an empty list
or record. An entry, whose type is one of its own fields, reads strictly: null is no list, but a
record may also be given as the list of its fields, or with field numbers for names.

A record is described by a `RecordShape`; `RecordShape.read` takes the fields in the order of the
document, so the first fault in the document is the one reported.
-/

namespace TargetNet.Yaml

/-- What was found where something else was expected. -/
inductive Found where
  | boolean (b : Bool)
  | integer (n : Int)
  | float (x : Decimal.Binary64)
  | string (s : String)
  | unit
  | sequence
  | map
  | enumeration
  deriving DecidableEq, Repr

/-- Why a value does not have the type it should have. -/
inductive Mismatch where
  /-- It is of another type. -/
  | wrongType (found : Found) (expected : String)
  /-- It is of the right type, but out of range. -/
  | wrongValue (found : Found) (expected : String)
  /-- It has too few or too many items. -/
  | wrongLength (count : Nat) (expected : String)
  | missingField (name : String)
  | duplicateField (name : String)
  /-- Two keys of a mapping are the same. -/
  | duplicateKey
  | unknownVariant (name : String) (expected : List String)
  /-- It is none of the alternatives. -/
  | noAlternative (title : String)
  /-- There is a tag inside an entry. -/
  | tagInEntry
  deriving DecidableEq, Repr

/-- Floating-point numbers in diagnostics are always positional. -/
def Found.floatLayout : Decimal.Layout :=
  ⟨none, none, "NaN", "inf"⟩

/-- A text between backquotes. -/
def ticked (s : String) : String :=
  "\x60" ++ s ++ "\x60"

/-- The wording of what was found. -/
def Found.message : Found → String
  | .boolean b => "boolean " ++ ticked (if b then "true" else "false")
  | .integer n => "integer " ++ ticked (Decimal.intText n)
  | .float x => "floating point " ++ ticked (floatLayout.render x)
  | .string s => "string " ++ Text.quoted s
  | .unit => "unit value"
  | .sequence => "sequence"
  | .map => "map"
  | .enumeration => "enum"

/-- The names that are expected, as a list in words. -/
def expectedNames : List String → String
  | [a] => ticked a
  | [a, b] => ticked a ++ " or " ++ ticked b
  | names => "one of " ++ String.intercalate ", " (names.map ticked)

/-- The wording of a mismatch. -/
def Mismatch.message : Mismatch → String
  | .wrongType found expected => "invalid type: " ++ found.message ++ ", expected " ++ expected
  | .wrongValue found expected => "invalid value: " ++ found.message ++ ", expected " ++ expected
  | .wrongLength count expected => "invalid length " ++ Decimal.text count ++ ", expected " ++ expected
  | .missingField name => "missing field " ++ ticked name
  | .duplicateField name => "duplicate field " ++ ticked name
  | .duplicateKey => "duplicate entry in YAML map"
  | .unknownVariant name expected =>
    "unknown variant " ++ ticked name ++ ", expected " ++ expectedNames expected
  | .noAlternative title => "data did not match any variant of untagged enum " ++ title
  | .tagInEntry => "untagged and internally tagged enums do not support enum input"

/-- The two ways to read. -/
inductive Mode where
  | document
  | entry
  deriving DecidableEq, Repr

/-- A value read as some type. -/
abbrev Reading (α : Type) := Except Mismatch α

/-- What a value is found to be. -/
def Value.found : Value → Found
  | .null => .unit
  | .bool b => .boolean b
  | .int n => .integer n
  | .float x => .float x
  | .string s => .string s
  | .sequence _ => .sequence
  | .mapping _ => .map
  | .tagged _ _ => .enumeration

/-- A value that is not of the expected type. -/
def Value.mismatch {α : Type} (value : Value) (expected : String) : Reading α :=
  .error (.wrongType value.found expected)

/-- Reads a text. -/
def Value.readString (value : Value) : Reading String :=
  match value.untagged with
  | .string s => .ok s
  | other => other.mismatch "a string"

/-- Reads a natural number below `bound`. -/
def Value.readBelow (bound : Nat) (expected : String) (value : Value) :
    Reading { n : Nat // n < bound } :=
  match value.untagged with
  | .int n =>
    if h : 0 ≤ n ∧ n.toNat < bound then .ok ⟨n.toNat, h.2⟩
    else .error (.wrongValue (.integer n) expected)
  | other => other.mismatch expected

/-- Reads a number of 32 bits. -/
def Value.readUInt32 (value : Value) : Reading UInt32 := do
  let n ← value.readBelow UInt32.size "u32"
  return UInt32.ofNatLT n.1 n.2

/-- Reads a number of 16 bits. -/
def Value.readUInt16 (value : Value) : Reading UInt16 := do
  let n ← value.readBelow UInt16.size "u16"
  return UInt16.ofNatLT n.1 n.2

/-- Reads a value that may be missing, which null says. -/
def Value.readOption {α : Type} (read : Value → Reading α) : Value → Reading (Option α)
  | .null => .ok none
  | value => some <$> read value

/-- The items of a list. -/
def Value.readItems (mode : Mode) (value : Value) : Reading (List Value) :=
  match value.untagged, mode with
  | .sequence items, _ => .ok items
  | .null, .document => .ok []
  | other, _ => other.mismatch "a sequence"

/-- Reads a list. -/
def Value.readList {α : Type} (mode : Mode) (read : Value → Reading α) (value : Value) :
    Reading (List α) := do
  (← value.readItems mode).mapM read

/-- The entries of a mapping. -/
def Value.readEntries (mode : Mode) (value : Value) : Reading (List (Value × Value)) :=
  match value.untagged, mode with
  | .mapping entries, _ => .ok entries
  | .null, .document => .ok []
  | other, _ => other.mismatch "a map"

/-- Reads nothing, which null says. -/
def Value.readUnit (mode : Mode) : Value → Reading Unit
  | .null => .ok ()
  | .mapping [] => if mode = .entry then .ok () else (Value.mapping []).mismatch "unit"
  | value => value.mismatch "unit"

mutual

/-- Reads a value of any kind. The names of tags lose an exclamation mark in front, and keys that
differed by one must not become the same. -/
def Value.readAny : Value → Reading Value
  | .sequence items => do return .sequence (← readAnyItems items)
  | .mapping entries => do return .mapping (← readAnyEntries [] entries)
  | .tagged name value => do return .tagged (unmarked name) (← readAny value)
  | value => .ok value

/-- Reads items of any kind. -/
def Value.readAnyItems : List Value → Reading (List Value)
  | [] => .ok []
  | item :: rest => do return (← item.readAny) :: (← readAnyItems rest)

/-- Reads entries of any kind, after those in `entries`. -/
def Value.readAnyEntries (entries : List (Value × Value)) :
    List (Value × Value) → Reading (List (Value × Value))
  | [] => .ok entries
  | (key, value) :: rest => do
    let key ← key.readAny
    if Value.hasKey entries key then throw .duplicateKey
    let value ← value.readAny
    readAnyEntries (entries ++ [(key, value)]) rest

end

/-- A type with finitely many named values: what a text must be, and the values under their names in
the order of declaration, a value with several names once for each. -/
structure Variants (α : Type) where
  named : List (String × α)
  /-- One entry for every value, without further names. -/
  values : List α

/-- The value with this name. -/
def Variants.ofName {α : Type} (variants : Variants α) (name : String) : Reading α :=
  match variants.named.find? (·.1 == name) with
  | some (_, value) => .ok value
  | none => .error (.unknownVariant name (variants.named.map (·.1)))

/-- Reads a name or, strictly, a number for it. -/
def Variants.ofKey {α : Type} (variants : Variants α) (key : Value) : Reading α :=
  match key with
  | .string name => variants.ofName name
  | .int n =>
    if n < 0 then key.mismatch "variant identifier"
    else
      match variants.values[n.toNat]? with
      | some value => .ok value
      | none =>
        .error (.wrongValue (.integer n)
          ("variant index 0 <= i < " ++ Decimal.text variants.values.length))
  | _ => key.mismatch "variant identifier"

/-- Reads one of the named values: its name, or the name as a tag on null (in a document) or as the
one key of a mapping to null (in an entry). -/
def Variants.read {α : Type} (variants : Variants α) (mode : Mode) (value : Value) : Reading α :=
  match mode, value with
  | _, .string name => variants.ofName name
  | .document, .tagged name inner => do
    let result ← variants.ofName (unmarked name)
    inner.readUnit mode
    return result
  | .document, other => other.mismatch "a Value::Tagged enum"
  | .entry, .mapping [(key, inner)] => do
    let result ← variants.ofKey key
    inner.readUnit mode
    return result
  | .entry, .mapping _ => .error (.wrongValue .map "map with a single key")
  | .entry, other => other.mismatch "string or map"

/-- How a record of type `δ` is read. -/
structure RecordShape (δ : Type) where
  /-- What the record is called in diagnostics. -/
  title : String
  /-- The fields in the order of declaration. -/
  fields : List String
  /-- The fields that must be there. -/
  required : List String
  /-- Further names of fields. -/
  aliases : List (String × String) := []
  /-- Puts a value into a field. -/
  set : δ → String → Value → Reading δ

namespace RecordShape

variable {δ : Type} (shape : RecordShape δ)

/-- The field that a name stands for, if any. -/
def field? (name : String) : Option String :=
  if shape.fields.contains name then some name
  else (shape.aliases.find? (·.1 == name)).map (·.2)

/-- The field that a key stands for, if any. -/
def fieldOfKey (mode : Mode) (key : Value) : Reading (Option String) :=
  match mode, key with
  | .document, key =>
    match key.untagged with
    | .string name => .ok (shape.field? name)
    | other => other.mismatch "field identifier"
  | .entry, .string name => .ok (shape.field? name)
  | .entry, .int n =>
    if n < 0 then key.mismatch "field identifier" else .ok shape.fields[n.toNat]?
  | .entry, key => key.mismatch "field identifier"

/-- Reads the fields among the entries of a mapping; others are passed over. -/
def readEntries (mode : Mode) (record : δ) (entries : List (Value × Value)) : Reading δ :=
  entries.foldlM (fun record (key, value) => do
    match ← shape.fieldOfKey mode key with
    | some name => shape.set record name value
    | none => return record) record

/-- So many items of a kind, in words. -/
def counted (count : Nat) : String :=
  Decimal.text count ++ if count = 1 then " element" else " elements"

/-- Reads the fields from number `index` on out of a list. -/
def readItems (index : Nat) (record : δ) : (fields : List String) → List Value → Reading δ
  | [], [] => .ok record
  | [], rest => .error (.wrongLength (index + rest.length) (counted index ++ " in sequence"))
  | name :: names, [] =>
    if shape.required.contains name then
      .error (.wrongLength index (shape.title ++ " with " ++ counted shape.fields.length))
    else readItems (index + 1) record names []
  | name :: names, value :: rest => do
    let record ← shape.set record name value
    readItems (index + 1) record names rest

/-- Reads a record onto one whose fields are empty. -/
def read (mode : Mode) (empty : δ) (value : Value) : Reading δ :=
  match value.untagged, mode with
  | .mapping entries, _ => shape.readEntries mode empty entries
  | .null, .document => .ok empty
  | .sequence items, .entry => shape.readItems 0 empty shape.fields items
  | other, _ => other.mismatch shape.title

end RecordShape

/-- Fills a field, once. -/
def fill {α : Type} (name : String) (field : Option α) (read : Reading α) : Reading (Option α) :=
  if field.isSome then .error (.duplicateField name) else some <$> read

/-- A field that must be there. -/
def demand {α : Type} (name : String) : Option α → Reading α
  | some value => .ok value
  | none => .error (.missingField name)

end TargetNet.Yaml
