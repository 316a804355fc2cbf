import TargetNet.Text.Blank
import TargetNet.Decimal.Numeral

/-!
# The package status database

A text of records. A record is a run of fields `Key: value`, a field may continue on lines that start
with a space or a tab, and a blank line ends the record. Reading takes the text line by line with one
line of look-ahead (`Reader.pending`), and it stops without an error at a record that is blank from
its start, so two blank lines end the database.
-/

namespace TargetNet.Package

/-- What the database says of one package. -/
structure Record where
  package : String
  status : Option String
  version : Option String
  architecture : Option String
  deriving DecidableEq, Repr

/-- Whether the package is fully installed: its status ends in the word `installed`. -/
def Record.isInstalled (record : Record) : Bool :=
  match record.status with
  | none => false
  | some status => (Text.wordsOfString status).getLast? == some "installed"

/-- Why a text is not a status database. -/
inductive DatabaseError where
  /-- A line that should start a field has no colon. The number counts the records up to there. -/
  | noColon (number : Nat)
  | duplicateField (name : String)
  | missingField (name : String)
  deriving DecidableEq, Repr

/-- The wording of a database error. -/
def DatabaseError.message : DatabaseError → String
  | .noColon number => "Line " ++ Decimal.text number ++ " doesn't contain a colon"
  | .duplicateField name => "duplicate field \x60" ++ name ++ "\x60"
  | .missingField name => "missing field \x60" ++ name ++ "\x60"

/-- The fields read so far of one record. -/
structure Fields where
  package : Option String := none
  status : Option String := none
  version : Option String := none
  architecture : Option String := none

/-- The record made of some fields. -/
def Fields.toRecord (fields : Fields) : Except DatabaseError Record :=
  match fields.package with
  | some package => .ok ⟨package, fields.status, fields.version, fields.architecture⟩
  | none => .error (.missingField "Package")

/-- Adds a field. Fields of other names are passed over. -/
def Fields.add (fields : Fields) (key value : String) : Except DatabaseError Fields :=
  if key == "Package" then
    if fields.package.isSome then .error (.duplicateField key)
    else .ok { fields with package := some value }
  else if key == "Status" then
    if fields.status.isSome then .error (.duplicateField key)
    else .ok { fields with status := some value }
  else if key == "Version" then
    if fields.version.isSome then .error (.duplicateField key)
    else .ok { fields with version := some value }
  else if key == "Architecture" then
    if fields.architecture.isSome then .error (.duplicateField key)
    else .ok { fields with architecture := some value }
  else .ok fields

/-- The lines of a text, each with the line feed that ends it. -/
def rawLines : List Char → List (List Char)
  | [] => []
  | '\n' :: rest => ['\n'] :: rawLines rest
  | c :: rest =>
    match rawLines rest with
    | [] => [[c]]
    | line :: more => (c :: line) :: more

/-- Whether a line goes on with the field before it. -/
def continues : List Char → Bool
  | ' ' :: _ | '\t' :: _ => true
  | _ => false

/-- A line of a folded value: without its indentation, and empty if it is a lone dot. -/
def unfoldLine (line : List Char) : List Char :=
  if line = [' ', '.'] then [] else Text.trimStart line

/-- Whether a value has a line that starts with a space. -/
def isFolded : List Char → Bool
  | '\n' :: ' ' :: _ => true
  | _ :: rest => isFolded rest
  | [] => false

/-- The text between line feeds; always one more piece than there are line feeds. -/
def pieces : List Char → List (List Char)
  | [] => [[]]
  | c :: rest =>
    match pieces rest with
    | [] => [[c]]
    | piece :: more => if c == '\n' then [] :: piece :: more else (c :: piece) :: more

/-- The value of a field from the text after its colon. -/
def fieldValue (cs : List Char) : String :=
  let value := Text.trim cs
  if isFolded value then
    match pieces value with
    | [] => ""
    | first :: more =>
      String.ofList (first ++ (more.map unfoldLine).flatMap fun line => '\n' :: line)
  else String.ofList value

/-- How a record ended. -/
inductive Ending where
  /-- With these fields, at a blank line or not. -/
  | fields (fields : Fields) (blank : Bool)
  /-- With an error; `begun` tells whether a field came before it. -/
  | failed (error : DatabaseError) (begun : Bool)

/-- Reads the fields of record number `number`. The first line is not looked at before; it is blank
when it is a single byte long. Returns the lines after the record. -/
def readFields (number : Nat) (fields : Fields) (begun : Bool) :
    List (List Char) → Ending × List (List Char)
  | [] => (.fields fields (!begun), [])
  | line :: rest =>
    let blank := if begun then line = ['\n'] else (String.ofList line).utf8ByteSize = 1
    if blank then (.fields fields true, rest)
    else
      match line.dropWhile (· != ':') with
      | [] => (.failed (.noColon number) begun, rest)
      | _ :: value =>
        let folded := rest.takeWhile continues
        let after := rest.dropWhile continues
        let key := String.ofList (line.takeWhile (· != ':'))
        match fields.add key (fieldValue (value ++ folded.flatten)) with
        | .error error => (.failed error true, after)
        | .ok fields => readFields number fields true after
termination_by lines => lines.length
decreasing_by
  have := (List.dropWhile_suffix (l := rest) continues).length_le
  simp only [List.length_cons]; omega

/-- Reads records from number `number` on. -/
def readRecords (number : Nat) : (fuel : Nat) → List (List Char) → Except DatabaseError (List Record)
  | 0, _ => .ok []
  | fuel + 1, lines =>
    match readFields number {} false lines with
    | (.failed error begun, _) => if begun then .error error else .ok []
    | (.fields fields blank, rest) =>
      match fields.toRecord with
      | .error error => if blank then .ok [] else .error error
      | .ok record => do return record :: (← readRecords (number + 1) fuel rest)

/-- The records of a status database, in order. -/
def parseDatabase (text : String) : Except DatabaseError (List Record) :=
  let lines := rawLines text.toList
  readRecords 1 (lines.length + 1) lines

end TargetNet.Package
