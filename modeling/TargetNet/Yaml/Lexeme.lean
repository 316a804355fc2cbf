import TargetNet.Yaml.Cursor
import TargetNet.Yaml.ReadError

/-!
# Scalars that span lines

The text of quoted, plain and block scalars. Line breaks inside a quoted or plain scalar are folded:
one break becomes a space, and of several the first is dropped. `Gap` collects the blanks and breaks
between two runs of other characters and says what stands for them.
-/

namespace TargetNet.Yaml

/-- Blanks and breaks met since the last other character. -/
structure Gap where
  /-- Blanks before any break. -/
  blanks : List Char := []
  /-- What the first break stands for, if there was one. -/
  first : Option (List Char) := none
  /-- What the further breaks stand for. -/
  further : List Char := []

/-- What a gap stands for. -/
def Gap.fold (gap : Gap) : List Char :=
  match gap.first with
  | none => gap.blanks
  | some first =>
    if first == ['\n'] then if gap.further.isEmpty then [' '] else gap.further
    else first ++ gap.further

/-- One more blank; it counts only before the first break. -/
def Gap.blank (gap : Gap) (x : Char) : Gap :=
  if gap.first.isSome then gap else { gap with blanks := gap.blanks ++ [x] }

/-- One more break. -/
def Gap.lineBreak (gap : Gap) (text : List Char) : Gap :=
  if gap.first.isSome then { gap with further := gap.further ++ text }
  else { blanks := [], first := some text }

/-- Past the blanks and breaks of a quoted scalar. -/
def skipGap : (fuel : Nat) → Gap → Cursor → Gap × Cursor
  | 0, gap, c => (gap, c)
  | fuel + 1, gap, c =>
    match c.rest with
    | [] => (gap, c)
    | x :: _ =>
      if isGap x then skipGap fuel (gap.blank x) c.skip
      else if isBreak x then skipGap fuel (gap.lineBreak c.breakText) c.skipBreak
      else (gap, c)

/-- The value of a hexadecimal digit. -/
def hexValue? (x : Char) : Option Nat :=
  let n := x.toNat
  if 48 ≤ n && n ≤ 57 then some (n - 48)
  else if 65 ≤ n && n ≤ 70 then some (n - 55)
  else if 97 ≤ n && n ≤ 102 then some (n - 87)
  else none

/-- The character with this code, given by exactly `count` hexadecimal digits. -/
def hexChar? (count : Nat) (cs : List Char) : Option Char :=
  if cs.length < count then none
  else
    match (cs.take count).foldlM (fun n x => (hexValue? x).map fun d => n * 16 + d) 0 with
    | some n => if n.isValidChar then some (Char.ofNat n) else none
    | none => none

/-- What an escape stands for whose backslash is followed by `x`, and how many characters it has. -/
def escape? (x : Char) (rest : List Char) : Option (Char × Nat) :=
  match x with
  | '0' => some ('\x00', 2)
  | 'a' => some ('\x07', 2)
  | 'b' => some ('\x08', 2)
  | 't' | '\t' => some ('\t', 2)
  | 'n' => some ('\n', 2)
  | 'v' => some ('\x0b', 2)
  | 'f' => some ('\x0c', 2)
  | 'r' => some ('\r', 2)
  | 'e' => some ('\x1b', 2)
  | ' ' => some (' ', 2)
  | '"' => some ('"', 2)
  | '/' => some ('/', 2)
  | '\\' => some ('\\', 2)
  | 'N' => some ('\u0085', 2)
  | '_' => some ('\u00a0', 2)
  | 'L' => some ('\u2028', 2)
  | 'P' => some ('\u2029', 2)
  | 'x' => (hexChar? 2 rest).map (·, 4)
  | 'u' => (hexChar? 4 rest).map (·, 6)
  | 'U' => (hexChar? 8 rest).map (·, 10)
  | _ => none

/-- Reads a quoted scalar on from inside. `text` is what was read so far, in reverse. Between single
quotes a doubled quote stands for one, between double quotes a backslash escapes. -/
def readQuoted (single : Bool) : (fuel : Nat) → (text : List Char) → Cursor →
    Except ReadError (List Char × Cursor)
  | 0, _, _ => .error .malformed
  | fuel + 1, text, c =>
    if c.atAnyDocumentMark then .error .malformed
    else
      match c.rest with
      | [] => .error .malformed
      | x :: rest =>
        if isGap x || isBreak x then
          let (gap, after) := skipGap c.size {} c
          readQuoted single fuel (gap.fold.reverse ++ text) after
        else if single && x == '\'' then
          if rest.head? == some '\'' then readQuoted single fuel ('\'' :: text) (c.skipMany 2)
          else .ok (text.reverse, c.skip)
        else if !single && x == '"' then .ok (text.reverse, c.skip)
        else if !single && x == '\\' then
          match rest with
          | [] => .error .malformed
          | y :: more =>
            if isBreak y then
              -- an escaped break vanishes together with the blanks that follow it
              let gap : Gap := { first := some [] }
              let (gap, after) := skipGap c.size gap c.skip.skipBreak
              readQuoted single fuel (gap.fold.reverse ++ text) after
            else
              match escape? y more with
              | some (z, count) => readQuoted single fuel (z :: text) (c.skipMany count)
              | none => .error .malformed
        else readQuoted single fuel (x :: text) c.skip

/-- Whether a plain scalar ends before the character that comes next. -/
def endsPlain (inFlow : Bool) (c : Cursor) : Bool :=
  (c.looksAt ':' && c.blankAt 1) ||
    (inFlow && c.rest.head?.any fun x => x == ',' || x == '[' || x == ']' || x == '\x7b' || x == '\x7d')

/-- Whether a colon stands before an indicator, which is not allowed between brackets. -/
def isBadColon (inFlow : Bool) (c : Cursor) : Bool :=
  inFlow && c.looksAt ':' && (c.peek 1).any fun x =>
    x == ',' || x == '?' || x == '[' || x == ']' || x == '\x7b' || x == '\x7d'

/-- Reads the characters of a plain scalar up to the next blank. -/
def readPlainRun (inFlow : Bool) : (fuel : Nat) → (text : List Char) → Cursor →
    Except ReadError (List Char × Cursor × Bool)
  | 0, text, c => .ok (text, c, true)
  | fuel + 1, text, c =>
    if c.blankAt 0 then .ok (text, c, false)
    else if isBadColon inFlow c then .error .malformed
    else if endsPlain inFlow c then .ok (text, c, true)
    else
      match c.rest with
      | [] => .ok (text, c, true)
      | x :: _ => readPlainRun inFlow fuel (x :: text) c.skip

/-- Past the blanks and breaks of a plain scalar. A tab must not stand where the indentation of a
further line would be. -/
def skipPlainGap (indent : Nat) : (fuel : Nat) → Gap → Cursor → Except ReadError (Gap × Cursor)
  | 0, gap, c => .ok (gap, c)
  | fuel + 1, gap, c =>
    match c.rest with
    | [] => .ok (gap, c)
    | x :: _ =>
      if isGap x then
        if gap.first.isSome && c.column < indent && x == '\t' then .error .malformed
        else skipPlainGap indent fuel (gap.blank x) c.skip
      else if isBreak x then skipPlainGap indent fuel (gap.lineBreak c.breakText) c.skipBreak
      else .ok (gap, c)

/-- Reads a plain scalar. `pending` is the gap before the next run, whose text is added only if the
run has characters. Returns whether a line break came after the scalar. -/
def readPlain (inFlow : Bool) (indent : Nat) : (fuel : Nat) → (text : List Char) → (pending : Gap) →
    Cursor → Except ReadError (List Char × Cursor × Bool)
  | 0, _, _, _ => .error .malformed
  | fuel + 1, text, pending, c =>
    if c.atAnyDocumentMark || c.looksAt '#' then .ok (text.reverse, c, pending.first.isSome)
    else do
      let (run, after, stopped) ← readPlainRun inFlow (c.size + 1) [] c
      let (text, pending) :=
        if run.isEmpty then (text, pending) else (run ++ pending.fold.reverse ++ text, {})
      if stopped || after.atEnd then return (text.reverse, after, pending.first.isSome)
      let (gap, after) ← skipPlainGap indent after.size pending after
      if !inFlow && after.column < indent then return (text.reverse, after, gap.first.isSome)
      readPlain inFlow indent fuel text gap after

/-- The trailing breaks that a block scalar keeps. -/
inductive Chomping where
  | strip
  | clip
  | keep
  deriving DecidableEq, Repr

/-- Past the empty lines of a block scalar. `indent` is zero while it is still to be found; then the
deepest of these lines sets it, at `least` or deeper. -/
def skipEmptyLines (indent : Nat) : (fuel : Nat) → (deepest : Nat) → (breaks : List Char) → Cursor →
    Except ReadError (Nat × List Char × Cursor)
  | 0, deepest, breaks, c => .ok (deepest, breaks, c)
  | fuel + 1, deepest, breaks, c =>
    let spaces := (c.ahead (· == ' ')).length
    let count := if indent == 0 then spaces else min spaces (indent - c.column)
    let c := c.skipMany count
    let deepest := max deepest c.column
    if (indent == 0 || c.column < indent) && c.looksAt '\t' then .error .malformed
    else if c.atBreak then skipEmptyLines indent fuel deepest (breaks ++ c.breakText) c.skipBreak
    else .ok (deepest, breaks, c)

/-- Reads the lines of a block scalar. `lead` is what the break before the next line stands for,
`breaks` what the empty lines after that break stand for, and `wasBlank` tells whether the line
before started with a blank. -/
def readBlockLines (literal : Bool) (indent : Nat) : (fuel : Nat) → (text lead breaks : List Char) →
    (wasBlank : Bool) → Cursor → Except ReadError (List Char × List Char × List Char × Cursor)
  | 0, _, _, _, _, _ => .error .malformed
  | fuel + 1, text, lead, breaks, wasBlank, c =>
    if c.column == indent && !c.atEnd then do
      let isBlank := c.rest.head?.any isGap
      let joint :=
        if !literal && lead == ['\n'] && !wasBlank && !isBlank then
          if breaks.isEmpty then [' '] else breaks
        else lead ++ breaks
      let line := c.ahead fun x => !isBreak x
      let c := c.skipLine
      let lead := c.breakText
      let c := c.skipBreak
      let (_, breaks, c) ← skipEmptyLines indent (c.size + 1) 0 [] c
      readBlockLines literal indent fuel (line.reverse ++ joint.reverse ++ text) lead breaks isBlank c
    else .ok (text, lead, breaks, c)

/-- The header of a block scalar: how trailing breaks are kept, and the indentation if it is given. -/
def readBlockHeader (c : Cursor) : Except ReadError (Chomping × Nat × Cursor) := do
  let chomping? (c : Cursor) : Option Chomping :=
    if c.looksAt '+' then some .keep else if c.looksAt '-' then some .strip else none
  let digit? (c : Cursor) : Except ReadError (Option Nat) :=
    match c.rest with
    | x :: _ =>
      if x == '0' then .error .malformed
      else if 49 ≤ x.toNat && x.toNat ≤ 57 then .ok (some (x.toNat - 48))
      else .ok none
    | [] => .ok none
  match chomping? c with
  | some chomping =>
    let c := c.skip
    match ← digit? c with
    | some n => return (chomping, n, c.skip)
    | none => return (chomping, 0, c)
  | none =>
    match ← digit? c with
    | none => return (.clip, 0, c)
    | some n =>
      let c := c.skip
      match chomping? c with
      | some chomping => return (chomping, n, c.skip)
      | none => return (.clip, n, c)

/-- Reads a block scalar after its indicator. `indent` is the indentation around it, if any. -/
def readBlock (literal : Bool) (indent : Option Nat) (c : Cursor) :
    Except ReadError (List Char × Cursor) := do
  let (chomping, increment, c) ← readBlockHeader c
  let c := c.skipWhile isGap
  let c := if c.looksAt '#' then c.skipLine else c
  if !c.atLineEnd then throw .malformed
  let c := c.skipBreak
  let given := if increment == 0 then 0 else indent.getD 0 + increment
  let (deepest, breaks, c) ← skipEmptyLines given (c.size + 1) 0 [] c
  let depth := if given == 0 then max deepest (max 1 (indent.elim 0 (· + 1))) else given
  let (text, lead, breaks, c) ← readBlockLines literal depth (c.size + 1) [] [] breaks false c
  let tail := match chomping with
    | .strip => []
    | .clip => lead
    | .keep => lead ++ breaks
  return (text.reverse ++ tail, c)

end TargetNet.Yaml
