import TargetNet.Text.Utf8

/-!
# Paths

A path is the bytes of its text. `components` reads it as a list of steps, with repeated slashes and
inner dots left out; two paths with the same components are the same path. `relative` accepts the
paths that stay below the directory they are read in and returns their canonical spelling.
-/

namespace TargetNet

/-- The name of a directory entry. -/
abbrev Name := List UInt8

/-- A path by its text. -/
structure Path where
  bytes : List UInt8
  deriving DecidableEq, Repr, Inhabited

/-- One step of a path. -/
inductive Component where
  /-- The slash that an absolute path starts with. -/
  | root
  /-- A dot at the very start of a relative path. -/
  | here
  /-- Two dots. -/
  | up
  | name (name : Name)
  deriving DecidableEq, Repr

/-- Why a path is refused. -/
inductive PathError where
  /-- It starts at the root although it should be relative to the target. -/
  | absolute (path : Path)
  /-- It goes up. -/
  | ascends (path : Path)
  /-- Nothing is left of it. -/
  | empty
  /-- Links lead it out of the target. -/
  | escapes (path root : Path)
  /-- It names no entry of any directory. -/
  | noParent (path : Path)
  /-- The target is none. -/
  | targetNotDirectory (path : Path)
  deriving DecidableEq, Repr

namespace Path

/-- The byte between components. -/
def slash : UInt8 := 47

/-- The byte of a dot. -/
def dot : UInt8 := 46

/-- The pieces of a text between slashes; always one more than there are slashes. -/
def pieces : List UInt8 → List Name
  | [] => [[]]
  | b :: rest =>
    if b = slash then [] :: pieces rest
    else
      match pieces rest with
      | [] => [[b]]
      | piece :: more => (b :: piece) :: more

/-- The component that a piece stands for, if it stands for one. -/
def ofPiece (piece : Name) : Option Component :=
  if piece = [] ∨ piece = [dot] then none
  else if piece = [dot, dot] then some .up
  else some (.name piece)

/-- Whether the path starts at the root. -/
def isAbsolute (path : Path) : Bool :=
  path.bytes.head? == some slash

/-- Whether the text ends in a slash. -/
def endsInSlash (path : Path) : Bool :=
  path.bytes.getLast? == some slash

/-- The component before all pieces: the root, or a leading dot. -/
def start (path : Path) : List Component :=
  if path.isAbsolute then [.root]
  else if (pieces path.bytes).head? = some [dot] then [.here]
  else []

/-- The steps of a path. -/
def components (path : Path) : List Component :=
  path.start ++ (pieces path.bytes).filterMap ofPiece

/-- Whether two paths have the same components. -/
def same (p q : Path) : Bool :=
  p.components == q.components

/-- The path with this text. -/
def ofString (s : String) : Path :=
  ⟨Text.Utf8.encode s⟩

/-- The text of a path, with U+FFFD for bytes that spell no character. -/
def display (path : Path) : String :=
  Text.Utf8.lossy path.bytes

/-- Names with a slash between each two. -/
def joinNames : List Name → List UInt8
  | [] => []
  | [name] => name
  | name :: rest => name ++ slash :: joinNames rest

/-- The relative path through these names. -/
def ofNames (names : List Name) : Path :=
  ⟨joinNames names⟩

/-- `path` read in the directory `base`. -/
def join (base path : Path) : Path :=
  if path.isAbsolute ∨ base.bytes = [] then path
  else if base.endsInSlash then ⟨base.bytes ++ path.bytes⟩
  else ⟨base.bytes ++ slash :: path.bytes⟩

/-- Pieces without those at the end that stand for nothing. -/
def trimEnd (pieces : List Name) : List Name :=
  (pieces.reverse.dropWhile fun piece => (ofPiece piece).isNone).reverse

/-- The pieces after the one that the path starts with, if it starts with the root or a dot. -/
def body (path : Path) : List Name :=
  if path.start = [] then pieces path.bytes else (pieces path.bytes).tail

/-- The path that starts in the same way and goes on with these pieces. -/
def withBody (path : Path) (body : List Name) : Path :=
  match path.start with
  | [.root] => ⟨slash :: joinNames body⟩
  | [.here] => ⟨joinNames ([dot] :: body)⟩
  | _ => ⟨joinNames body⟩

/-- The directory that holds the entry which the path names; the root and the empty path name none.
Its text is the beginning of the path's text, up to the end of the component before the last. -/
def parent? (path : Path) : Option Path :=
  match path.components.getLast? with
  | none | some .root => none
  | some .here => some ⟨[]⟩
  | some _ => some (path.withBody (trimEnd (trimEnd path.body).dropLast))

/-- The path and the directories above it that are named in it, from the inside out. -/
def upwards (path : Path) : List Path :=
  go path.components.length path
where
  /-- Goes up at most so many times. -/
  go : Nat → Path → List Path
    | 0, _ => []
    | fuel + 1, path =>
      match path.parent? with
      | none => []
      | some parent => path :: go fuel parent

/-- The names among components. -/
def names (components : List Component) : List Name :=
  components.filterMap fun
    | .name name => some name
    | _ => none

/-- The canonical spelling of a path that stays below the directory it is read in. -/
def relative (path : Path) : Except PathError Path :=
  if path.isAbsolute then .error (.absolute path)
  else if .up ∈ path.components then .error (.ascends path)
  else
    match names path.components with
    | [] => .error .empty
    | first :: rest => .ok (ofNames (first :: rest))

end Path

/-- The wording of a refusal, without its kind. -/
def PathError.message : PathError → String
  | .absolute path => "path must be relative to the target root: " ++ path.display
  | .ascends path => path.display
  | .empty => "Empty path after normalization"
  | .escapes path root => "Path " ++ path.display ++ " escapes root " ++ root.display
  | .noParent path => path.display ++ " has no parent directory"
  | .targetNotDirectory path => "target root " ++ path.display ++ " is not a directory"

/-- Whether the path was refused for leaving the target. -/
def PathError.isTraversal : PathError → Bool
  | .ascends _ | .escapes _ _ => true
  | _ => false

end TargetNet
