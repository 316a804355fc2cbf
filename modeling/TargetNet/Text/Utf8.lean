/-!
# UTF-8

Reading bytes as text. `decode` accepts exactly the well-formed sequences and otherwise says where
the first fault is; `lossy` reads on past every fault and puts U+FFFD in its place.
-/

namespace TargetNet.Text.Utf8

/-- The first fault of a byte sequence that is not UTF-8. -/
inductive Fault where
  /-- The `length` bytes from `offset` on are no part of any well-formed sequence. -/
  | invalid (offset length : Nat)
  /-- The bytes from `offset` on begin a character that the end of input cuts off. -/
  | incomplete (offset : Nat)
  deriving DecidableEq, Repr

/-- The range that the second byte of a character must lie in, and how many bytes follow the first;
`none` for a byte that begins no character of several bytes. -/
def leading (b : UInt8) : Option (Nat × UInt8 × UInt8) :=
  if 0xC2 ≤ b && b ≤ 0xDF then some (1, 0x80, 0xBF)
  else if b == 0xE0 then some (2, 0xA0, 0xBF)
  else if b == 0xED then some (2, 0x80, 0x9F)
  else if 0xE1 ≤ b && b ≤ 0xEF then some (2, 0x80, 0xBF)
  else if b == 0xF0 then some (3, 0x90, 0xBF)
  else if 0xF1 ≤ b && b ≤ 0xF3 then some (3, 0x80, 0xBF)
  else if b == 0xF4 then some (3, 0x80, 0x8F)
  else none

/-- The outcome of reading one character. -/
inductive Step where
  /-- A character of `length` bytes. -/
  | char (c : Char) (length : Nat)
  /-- `length` bytes that no character begins with. -/
  | bad (length : Nat)
  /-- The input ends inside the character. -/
  | cut
  deriving DecidableEq, Repr

/-- Reads `count` further bytes of a character, the first of them between `low` and `high`, onto the
bits in `code`; `seen` bytes were read before. -/
def continuation (count seen : Nat) (low high : UInt8) (code : Nat) : List UInt8 → Step :=
  match count with
  | 0 => fun _ => .char (Char.ofNat code) seen
  | count + 1 => fun bytes =>
    match bytes with
    | [] => .cut
    | b :: rest =>
      if low ≤ b && b ≤ high then
        continuation count (seen + 1) 0x80 0xBF (code * 64 + (b.toNat - 0x80)) rest
      else .bad seen

/-- Reads the character that begins with `b`. -/
def step (b : UInt8) (rest : List UInt8) : Step :=
  if b < 0x80 then .char (Char.ofNat b.toNat) 1
  else
    match leading b with
    | none => .bad 1
    | some (count, low, high) =>
      let bits := match count with
        | 1 => b.toNat - 0xC0
        | 2 => b.toNat - 0xE0
        | _ => b.toNat - 0xF0
      continuation count 1 low high bits rest

/-- The first fault, looking from byte number `offset` on. -/
def faultFrom (offset : Nat) : (fuel : Nat) → List UInt8 → Option Fault
  | 0, _ => none
  | _, [] => none
  | fuel + 1, b :: rest =>
    match step b rest with
    | .char _ length => faultFrom (offset + length) fuel (rest.drop (length - 1))
    | .bad length => some (.invalid offset length)
    | .cut => some (.incomplete offset)

/-- The text that the bytes spell, or the first fault. -/
def decode (bytes : ByteArray) : Except Fault String :=
  match String.fromUTF8? bytes with
  | some text => .ok text
  | none =>
    match faultFrom 0 bytes.size bytes.toList with
    | some fault => .error fault
    | none => .error (.invalid 0 1)

/-- The characters that the bytes spell, with U+FFFD for every run that spells none. -/
def lossyChars : (fuel : Nat) → List UInt8 → List Char
  | 0, _ => []
  | _, [] => []
  | fuel + 1, b :: rest =>
    match step b rest with
    | .char c length => c :: lossyChars fuel (rest.drop (length - 1))
    | .bad length => '\uFFFD' :: lossyChars fuel (rest.drop (length - 1))
    | .cut => ['\uFFFD']

/-- The bytes as text, with U+FFFD for every run that spells no character. -/
def lossy (bytes : List UInt8) : String :=
  String.ofList (lossyChars bytes.length bytes)

/-- The bytes of a string. -/
def encode (s : String) : List UInt8 :=
  s.toUTF8.toList

/-- What a string is encoded as is decoded as this string. -/
theorem fromUTF8?_toUTF8 (s : String) : String.fromUTF8? s.toUTF8 = some s := by
  have valid : s.toUTF8.IsValidUTF8 := s.isValidUTF8
  simp only [String.fromUTF8?, String.fromUTF8, dif_pos, valid]
  rfl

/-- The bytes of a string read back as that string. -/
theorem decode_toUTF8 (s : String) : decode s.toUTF8 = .ok s := by
  rw [decode, fromUTF8?_toUTF8]

/-- Bytes are decoded as the text that they encode. -/
theorem decode_eq_ok_iff {bytes : ByteArray} {text : String} :
    decode bytes = .ok text ↔ bytes = text.toUTF8 := by
  constructor
  · intro h
    rw [decode] at h
    split at h
    · rename_i found
      cases h
      rw [String.fromUTF8?] at found
      split at found
      · cases found
        rfl
      · cases found
    · split at h <;> cases h
  · rintro rfl
    exact decode_toUTF8 text

end TargetNet.Text.Utf8
