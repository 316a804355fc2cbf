/-!
# Numerals

Natural numbers written with digits: `ofNat` writes one in base ten, and `value?` reads one in any
base up to sixteen. What `ofNat` writes, `value?` reads back (`value?_ofNat`).
-/

namespace TargetNet.Decimal

/-- The character for a digit below ten. -/
def digitChar (d : Nat) : Char :=
  Char.ofNat (48 + d)

/-- A natural number in base ten, without leading zeros. -/
def ofNat (n : Nat) : List Char :=
  if n < 10 then [digitChar n] else ofNat (n / 10) ++ [digitChar (n % 10)]

/-- An integer in base ten. -/
def ofInt (n : Int) : List Char :=
  if n < 0 then '-' :: ofNat n.natAbs else ofNat n.natAbs

/-- A natural number as a string. -/
def text (n : Nat) : String :=
  String.ofList (ofNat n)

/-- An integer as a string. -/
def intText (n : Int) : String :=
  String.ofList (ofInt n)

/-- A digit of base ten. -/
def isDigit (c : Char) : Bool :=
  48 ≤ c.toNat && c.toNat ≤ 57

/-- The value of a digit, letters in either case counting on from ten, if it is one in this base. -/
def digitValue? (base : Nat) (c : Char) : Option Nat :=
  let n := c.toNat
  let v :=
    if 48 ≤ n && n ≤ 57 then some (n - 48)
    else if 97 ≤ n && n ≤ 122 then some (n - 87)
    else if 65 ≤ n && n ≤ 90 then some (n - 55)
    else none
  v.filter (· < base)

/-- Reads further digits after those that made `value`. -/
def valueFrom? (base value : Nat) : List Char → Option Nat
  | [] => some value
  | c :: rest => (digitValue? base c).bind fun d => valueFrom? base (value * base + d) rest

/-- The number that a non-empty run of digits spells. -/
def value? (base : Nat) (cs : List Char) : Option Nat :=
  if cs.isEmpty then none else valueFrom? base 0 cs

/-- Digits are read one run after the other. -/
theorem valueFrom?_append (base value : Nat) (cs ds : List Char) :
    valueFrom? base value (cs ++ ds) =
      (valueFrom? base value cs).bind fun v => valueFrom? base v ds := by
  induction cs generalizing value with
  | nil => rfl
  | cons c cs ih =>
    simp only [List.cons_append, valueFrom?]
    cases digitValue? base c with
    | none => rfl
    | some d => exact ih _

theorem ofNat_ne_nil (n : Nat) : ofNat n ≠ [] := by
  rw [ofNat]; split <;> simp

theorem toNat_digitChar {d : Nat} (h : d < 10) : (digitChar d).toNat = 48 + d := by
  have : ∀ d < 10, (digitChar d).toNat = 48 + d := by decide
  exact this d h

theorem isDigit_digitChar {d : Nat} (h : d < 10) : isDigit (digitChar d) = true := by
  simp [isDigit, toNat_digitChar h]; omega

theorem digitValue?_digitChar {d : Nat} (h : d < 10) : digitValue? 10 (digitChar d) = some d := by
  have : ∀ d < 10, digitValue? 10 (digitChar d) = some d := by decide
  exact this d h

/-- A number is written with digits only. -/
theorem isDigit_of_mem_ofNat (n : Nat) : ∀ c ∈ ofNat n, isDigit c = true := by
  induction n using Nat.strongRecOn with
  | _ n ih =>
    rw [ofNat]
    split
    · intro c hc
      rw [List.mem_singleton.1 hc]
      exact isDigit_digitChar (by omega)
    · intro c hc
      rcases List.mem_append.1 hc with h | h
      · exact ih (n / 10) (by omega) c h
      · rw [List.mem_singleton.1 h]
        exact isDigit_digitChar (Nat.mod_lt _ (by omega))

theorem notMem_ofNat {c : Char} (other : isDigit c = false) (n : Nat) : c ∉ ofNat n := by
  intro mem
  exact Bool.false_ne_true (other.symm.trans (isDigit_of_mem_ofNat n c mem))

/-- The digits that a number is written with are read as this number. -/
theorem valueFrom?_ofNat (n : Nat) : valueFrom? 10 0 (ofNat n) = some n := by
  induction n using Nat.strongRecOn with
  | _ n ih =>
    rw [ofNat]
    split
    · simp [valueFrom?, digitValue?_digitChar (by omega : n < 10)]
    · rw [valueFrom?_append, ih (n / 10) (by omega)]
      simp only [Option.bind_some, valueFrom?,
        digitValue?_digitChar (Nat.mod_lt n (by omega : 0 < 10))]
      congr 1
      omega

/-- A number reads back from what is written for it. -/
theorem value?_ofNat (n : Nat) : value? 10 (ofNat n) = some n := by
  simp [value?, ofNat_ne_nil, valueFrom?_ofNat]

/-- Different numbers have different texts. -/
theorem text_injective {m n : Nat} (h : text m = text n) : m = n := by
  have digits : ofNat m = ofNat n := String.ofList_injective h
  have read := value?_ofNat m
  rw [digits, value?_ofNat] at read
  exact (Option.some.inj read).symm

end TargetNet.Decimal
