import TargetNet.FileSystem.Change
import TargetNet.Text.Blank
import TargetNet.Text.Lines

/-!
# Legacy artifacts

Files that a distribution ships and that stand in the way of the rendered configuration. Such a file is
only touched when its content is what was shipped: `contentLines` drops comments and the white space
around lines, and what is left must be exactly the expected lines. `Artifact.inspect` looks at the file
and decides; nothing is changed by that.
-/

namespace TargetNet.Legacy

/-- What happens to a file with the shipped content. -/
inductive Policy where
  | delete
  /-- It is deleted, and this text is left in its place. -/
  | annotate (text : String)
  deriving DecidableEq, Repr

/-- A shipped file. -/
structure Artifact where
  /-- Where it is, below the target. -/
  path : Path
  /-- Its lines, without comments and the white space around them. -/
  expected : List String
  policy : Policy
  /-- What is at stake if the file stays. -/
  consequence : String
  deriving DecidableEq, Repr

/-- What became of an artifact. -/
inductive Outcome where
  | removed
  | removedAndAnnotated
  /-- The content is the user's, and the file stays. -/
  | preserved
  | absent
  /-- There is something that could not be read. -/
  | unreadable
  deriving DecidableEq, Repr

/-- The name of an outcome. -/
def Outcome.name : Outcome → String
  | .removed => "removed"
  | .removedAndAnnotated => "removed and annotated"
  | .preserved => "preserved"
  | .absent => "absent"
  | .unreadable => "unreadable"

/-- Whether a line is a comment: it starts with a number sign, without a blank before it. -/
def isComment (line : List Char) : Bool :=
  line.head? == some '#'

/-- The lines that carry configuration, without the white space around them. Blank lines count. -/
def contentLines (text : List Char) : List (List Char) :=
  ((Text.lines text).filter (!isComment ·)).map Text.trim

/-- The content lines of a string. -/
def contentLinesOf (text : String) : List String :=
  (contentLines text.toList).map String.ofList

/-- What the place of an artifact looks like. -/
inductive Inspection where
  | absent
  /-- It is not known whether anything is there. -/
  | uninspectable (fault : SystemError)
  | unreadable (fault : SystemError)
  /-- The content is not the shipped one. -/
  | changed
  | asShipped
  deriving DecidableEq, Repr

/-- Looks at what is at the path of an artifact. -/
def Artifact.inspect [Circumstances] (artifact : Artifact) (fs : FileSystem) (path : Path) :
    Inspection :=
  match fs.exists? path with
  | .error fault => .uninspectable fault
  | .ok false => .absent
  | .ok true =>
    match fs.read path with
    | .error fault => .unreadable fault
    | .ok bytes =>
      match Text.Utf8.decode bytes with
      | .error fault => .unreadable (.malformedText fault)
      | .ok text => if contentLinesOf text = artifact.expected then .asShipped else .changed

/-- The outcome for a file with the shipped content. -/
def Policy.outcome : Policy → Outcome
  | .delete => .removed
  | .annotate _ => .removedAndAnnotated

end TargetNet.Legacy
