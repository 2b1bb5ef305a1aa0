/-!
# Hexadecimal digits

Bytes written as two digits each, in either case.
-/

namespace SqlGateway.Hex

/-- The digit of a number below sixteen. -/
def digit (upperCase : Bool) (n : Nat) : Char :=
  if n < 10 then Char.ofNat (48 + n)
  else Char.ofNat ((if upperCase then 55 else 87) + n)

def byte (upperCase : Bool) (b : UInt8) : List Char :=
  [digit upperCase (b.toNat / 16), digit upperCase (b.toNat % 16)]

/-- Two digits for each byte, most significant first. -/
def ofBytes (upperCase : Bool) (bytes : List UInt8) : String :=
  String.ofList (bytes.flatMap (byte upperCase))

/-- The last `count` digits of a number. -/
def digits (upperCase : Bool) (count n : Nat) : List Char :=
  (List.range count).reverse.map fun place => digit upperCase ((n >>> (4 * place)) % 16)

def value? (c : Char) : Option Nat :=
  if '0' ≤ c ∧ c ≤ '9' then some (c.toNat - 48)
  else if 'a' ≤ c ∧ c ≤ 'f' then some (c.toNat - 87)
  else if 'A' ≤ c ∧ c ≤ 'F' then some (c.toNat - 55)
  else none

/-- The number that a text of digits stands for. -/
def number? (cs : List Char) : Option Nat :=
  cs.foldlM (fun n c => (value? c).map (n * 16 + ·)) 0

/-- The bytes that a text of digit pairs stands for. -/
def bytes? : List Char → Option (List UInt8)
  | [] => some []
  | a :: b :: cs => do
    let high ← value? a
    let low ← value? b
    return UInt8.ofNat (high * 16 + low) :: (← bytes? cs)
  | [_] => none

theorem value?_digit (upperCase : Bool) {n : Nat} (h : n < 16) :
    value? (digit upperCase n) = some n := by
  revert n
  cases upperCase <;> decide

/-- Bytes are read back from their digits. -/
theorem bytes?_flatMap_byte (upperCase : Bool) (bytes : List UInt8) :
    bytes? (bytes.flatMap (byte upperCase)) = some bytes := by
  induction bytes with
  | nil => rfl
  | cons b bs ih =>
    have hhigh : b.toNat / 16 < 16 := by have := b.toNat_lt; omega
    have hlow : b.toNat % 16 < 16 := Nat.mod_lt _ (by decide)
    have hb : UInt8.ofNat (b.toNat / 16 * 16 + b.toNat % 16) = b := by
      rw [Nat.div_add_mod', UInt8.ofNat_toNat]
    simp only [List.flatMap_cons, byte, List.cons_append, List.nil_append, bytes?,
      value?_digit upperCase hhigh, value?_digit upperCase hlow, ih]
    exact congrArg (fun x => some (x :: bs)) hb

end SqlGateway.Hex
