import TargetNet.Decimal.Shortest

/-!
# YAML values

What a YAML document says once anchors, styles and comments are gone. Mappings keep the order of
their entries, and any value may be a key. `same` is the equality of keys: it follows the values,
only two floating-point numbers are the same when they are equal as numbers, and an exclamation mark
in front of the name of a tag does not count.
-/

namespace TargetNet.Yaml

/-- A name without the exclamation mark in front of it, which stays where nothing follows. -/
def unmarked (name : String) : String :=
  match name.toList with
  | '!' :: c :: rest => String.ofList (c :: rest)
  | _ => name

/-- A tag by its name, as it is shown: with one exclamation mark in front. -/
def shownTag (name : String) : String :=
  "!" ++ unmarked name

/-- A document value. -/
inductive Value where
  | null
  | bool (b : Bool)
  | int (n : Int)
  | float (x : Decimal.Binary64)
  | string (s : String)
  | sequence (items : List Value)
  | mapping (entries : List (Value × Value))
  /-- A value under a tag of the document's own, given by its name. -/
  | tagged (tag : String) (value : Value)
  deriving Repr, Inhabited

namespace Value

mutual

/-- Equality of keys. -/
def same : Value → Value → Bool
  | .null, .null => true
  | .bool a, .bool b => a == b
  | .int a, .int b => a == b
  | .float a, .float b => a.same b
  | .string a, .string b => a == b
  | .sequence a, .sequence b => sameItems a b
  | .mapping a, .mapping b => a.length == b.length && includes a b
  | .tagged s a, .tagged t b => unmarked s == unmarked t && same a b
  | _, _ => false

/-- Equality item by item. -/
def sameItems : List Value → List Value → Bool
  | [], [] => true
  | a :: as, b :: bs => same a b && sameItems as bs
  | _, _ => false

/-- Whether every entry of the first mapping is in the second. -/
def includes : List (Value × Value) → List (Value × Value) → Bool
  | [], _ => true
  | (k, v) :: rest, other => includesEntry k v other && includes rest other

/-- Whether an entry is in a mapping. -/
def includesEntry (k v : Value) : List (Value × Value) → Bool
  | [] => false
  | (k', v') :: rest => (same k k' && same v v') || includesEntry k v rest

end

/-- Whether a key is among the entries of a mapping. -/
def hasKey (entries : List (Value × Value)) (key : Value) : Bool :=
  entries.any fun entry => entry.1.same key

/-- The value without its tag, and without those right under it. -/
def untagged : Value → Value
  | .tagged _ value => value.untagged
  | value => value

/-- The value under a key that is a string. -/
def lookup? (name : String) (entries : List (Value × Value)) : Option Value :=
  (entries.find? fun entry => entry.1.same (.string name)).map (·.2)

/-- The value under a string key of a mapping, tagged or not. -/
def get? (value : Value) (name : String) : Option Value :=
  match value.untagged with
  | .mapping entries => lookup? name entries
  | _ => none

/-- The natural number that a value is, tagged or not. -/
def asNat? (value : Value) : Option Nat :=
  match value.untagged with
  | .int n => if 0 ≤ n then some n.toNat else none
  | _ => none

/-- Numbers are positional from `0.00001` up to sixteen digits before the point, and have an exponent
outside of that. -/
def floatLayout : Decimal.Layout :=
  ⟨some (-5), some 16, ".nan", ".inf"⟩

/-- The text of a floating-point number in a document. -/
def floatText (x : Decimal.Binary64) : String :=
  floatLayout.render x

end Value

end TargetNet.Yaml
