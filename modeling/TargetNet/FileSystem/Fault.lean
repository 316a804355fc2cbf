import TargetNet.Text.Utf8
import TargetNet.Decimal.Numeral

/-!
# Faults of the system

What the operating system answers when it refuses an operation, with the wording it uses. Some faults
arise before the system is asked (a NUL byte) or after it answered (bytes that are not text).
-/

namespace TargetNet

/-- A refusal by the operating system, or by the layer around it. -/
inductive SystemError where
  | noEntry
  | permissionDenied
  | busy
  | alreadyExists
  | notDirectory
  | isDirectory
  | invalidArgument
  | nameTooLong
  | tooManyLinks
  /-- A name holds a NUL byte. -/
  | nulInName
  /-- An argument for a program holds a NUL byte. -/
  | nulInArgument
  /-- A file or stream read as text is none. -/
  | notText
  /-- Bytes read first and decoded afterwards are no text. -/
  | malformedText (fault : Text.Utf8.Fault)
  deriving DecidableEq, Repr

/-- A refusal under its number. -/
def SystemError.numbered (description : String) (number : Nat) : String :=
  description ++ " (os error " ++ Decimal.text number ++ ")"

/-- The wording of a fault. -/
def SystemError.message : SystemError → String
  | .noEntry => numbered "No such file or directory" 2
  | .permissionDenied => numbered "Permission denied" 13
  | .busy => numbered "Device or resource busy" 16
  | .alreadyExists => numbered "File exists" 17
  | .notDirectory => numbered "Not a directory" 20
  | .isDirectory => numbered "Is a directory" 21
  | .invalidArgument => numbered "Invalid argument" 22
  | .nameTooLong => numbered "File name too long" 36
  | .tooManyLinks => numbered "Too many levels of symbolic links" 40
  | .nulInName => "file name contained an unexpected NUL byte"
  | .nulInArgument => "nul byte found in provided data"
  | .notText => "stream did not contain valid UTF-8"
  | .malformedText (.invalid offset length) =>
    "invalid utf-8 sequence of " ++ Decimal.text length ++ " bytes from index " ++ Decimal.text offset
  | .malformedText (.incomplete offset) =>
    "incomplete utf-8 byte sequence from index " ++ Decimal.text offset

end TargetNet
