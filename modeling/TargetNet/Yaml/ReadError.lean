/-!
# Errors of reading a document

Why a text is not a document. Most errors have a place in the text and are told apart by their kind
only; the ones that concern the document as a whole have a wording of their own.
-/

namespace TargetNet.Yaml

/-- A fault of a document text. -/
inductive ReadError where
  /-- The text does not follow the grammar. -/
  | malformed
  /-- An alias for which no anchor came before. -/
  | unknownAnchor
  /-- A key that the mapping has already. -/
  | duplicateKey
  /-- Collections are nested too deeply. -/
  | nestedTooDeeply
  /-- A scalar that does not spell a value of the type it is marked with. -/
  | wrongScalar
  /-- An integer of more than 64 bits. -/
  | integerTooLong
  /-- Aliases repeat too much of the document. -/
  | repetitionLimit
  /-- More than one document in one text. -/
  | severalDocuments
  deriving DecidableEq, Repr

/-- Whether the error belongs to a place in the text. -/
def ReadError.isLocated : ReadError → Bool
  | .repetitionLimit | .severalDocuments => false
  | _ => true

/-- The wording of an error. -/
def ReadError.message : ReadError → String
  | .malformed => "malformed document"
  | .unknownAnchor => "unknown anchor"
  | .duplicateKey => "duplicate entry"
  | .nestedTooDeeply => "recursion limit exceeded"
  | .wrongScalar => "invalid value"
  | .integerTooLong => "invalid type: integer out of range"
  | .repetitionLimit => "repetition limit exceeded"
  | .severalDocuments =>
    "deserializing from YAML containing more than one document is not supported"

end TargetNet.Yaml
