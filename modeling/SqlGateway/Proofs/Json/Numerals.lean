import SqlGateway.Json.Number
import SqlGateway.Json.Token

/-!
# Numerals read back

A numeral is printed as its sign, its digits, its fraction and its exponent, and the reader takes
these apart again if what follows cannot go on with the numeral. The numeral of a whole number that
fits in 64 bits stands for that number.

Main definitions:

* `Decimal.Numeral.Proper`: a numeral as the format of JSON has them.
* `Json.Token.Cut`: a text that does not go on with a numeral.

Main results:

* `Json.Token.numeral?_chars`: a proper numeral is read up to the cut.
* `Json.reading?_ofInt`: what the numeral of a whole number stands for.
-/

namespace SqlGateway

/-! ## Digits -/

namespace Decimal

theorem isDigit_of_char {c : Char} (h : c.isDigit = true) : isDigit c = true := by
  unfold Char.isDigit at h
  unfold isDigit
  rw [Bool.and_eq_true, decide_eq_true_eq, decide_eq_true_eq] at h ⊢
  exact h

theorem natDigits_ne_nil (n : Nat) : natDigits n ≠ [] :=
  Nat.toDigits_ne_nil

theorem isDigit_of_mem_natDigits {n : Nat} {c : Char} (h : c ∈ natDigits n) : isDigit c = true :=
  isDigit_of_char (Nat.isDigit_of_mem_toDigits (by decide) (by decide) h)

/-- Appending one more digit. -/
theorem digitsValue_concat (cs : List Char) (c : Char) :
    digitsValue (cs ++ [c]) = digitsValue cs * 10 + (c.toNat - 48) := by
  unfold digitsValue
  rw [List.foldl_append]
  rfl

/-- The digits of a number stand for it. -/
theorem digitsValue_natDigits (n : Nat) : digitsValue (natDigits n) = n := by
  have hdigit : ∀ d < 10, (Nat.digitChar d).toNat - 48 = d := by decide
  induction n using Nat.strongRecOn with
  | ind n ih =>
    unfold natDigits at ih ⊢
    by_cases hn : n < 10
    · rw [Nat.toDigits_of_lt_base hn]
      show 0 * 10 + ((Nat.digitChar n).toNat - 48) = n
      rw [hdigit n hn]
      omega
    · rw [Nat.toDigits_of_base_le (by decide) (Nat.le_of_not_lt hn), digitsValue_concat,
        ih (n / 10) (by omega), hdigit _ (Nat.mod_lt _ (by decide))]
      omega

/-- A number that is not zero does not begin with a zero. -/
theorem head?_natDigits {n : Nat} (hn : n ≠ 0) : (natDigits n).head? ≠ some '0' := by
  have hdigit : ∀ d < 10, d ≠ 0 → Nat.digitChar d ≠ '0' := by decide
  induction n using Nat.strongRecOn with
  | ind n ih =>
    unfold natDigits at ih ⊢
    by_cases hlt : n < 10
    · rw [Nat.toDigits_of_lt_base hlt, List.head?_cons]
      exact fun h => hdigit n hlt hn (Option.some.inj h)
    · rw [Nat.toDigits_of_base_le (by decide) (Nat.le_of_not_lt hlt),
        List.head?_append]
      obtain ⟨d, ds, hdigits⟩ := List.exists_cons_of_ne_nil (natDigits_ne_nil (n / 10))
      have hfirst := ih (n / 10) (by omega) (by omega)
      unfold natDigits at hdigits
      rw [hdigits] at hfirst ⊢
      exact hfirst

/-! ## The parts of a numeral -/

def fractionChars : Option (List Char) → List Char
  | none => []
  | some digits => '.' :: digits

def exponentChars : Option (Bool × List Char) → List Char
  | none => []
  | some (minus, digits) => 'e' :: (if minus then '-' else '+') :: digits

theorem Numeral.chars_eq (n : Numeral) :
    n.chars = (if n.negative then ['-'] else []) ++
      (n.whole ++ (fractionChars n.fraction ++ exponentChars n.exponent)) := by
  unfold chars
  rw [List.append_assoc, List.append_assoc]
  rfl

/-- A numeral as JSON has them: digits without a needless zero before them, and digits behind the
point and the exponent mark. -/
structure Numeral.Proper (n : Numeral) : Prop where
  whole_ne_nil : n.whole ≠ []
  whole : ∀ c ∈ n.whole, isDigit c = true
  /-- A zero at the beginning is the only digit. -/
  leading : n.whole.head? = some '0' → n.whole = ['0']
  fraction : ∀ digits, n.fraction = some digits → digits ≠ [] ∧ ∀ c ∈ digits, isDigit c = true
  exponent : ∀ minus digits, n.exponent = some (minus, digits) →
    digits ≠ [] ∧ ∀ c ∈ digits, isDigit c = true

theorem Numeral.proper_ofInt (n : Int) : (Numeral.ofInt n).Proper where
  whole_ne_nil := natDigits_ne_nil _
  whole _ := isDigit_of_mem_natDigits
  leading h := by
    -- only zero begins with a zero
    have hzero : n.natAbs = 0 := Classical.byContradiction fun hn => head?_natDigits hn h
    show natDigits n.natAbs = ['0']
    rw [hzero]
    rfl
  fraction _ h := nomatch h
  exponent _ _ h := nomatch h

end Decimal

open Decimal

/-! ## The reader of numerals -/

namespace Json.Token

/-- The text does not begin with what could go on with a numeral. -/
def Cut (cs : List Char) : Prop :=
  ∀ c, cs.head? = some c → isDigit c = false ∧ c ≠ '.' ∧ c ≠ 'e' ∧ c ≠ 'E'

theorem cut_nil : Cut [] :=
  fun _ h => nomatch h

theorem takeWhile_digits {digits rest : List Char} (h : ∀ c ∈ digits, isDigit c = true)
    (hrest : ∀ c, rest.head? = some c → isDigit c = false) :
    (digits ++ rest).takeWhile isDigit = digits ∧ (digits ++ rest).dropWhile isDigit = rest := by
  rw [List.takeWhile_append_of_pos h, List.dropWhile_append_of_pos h]
  cases rest with
  | nil => simp
  | cons c rest =>
    have hc : isDigit c = false := hrest c rfl
    simp [hc]

/-- The exponent is read up to the cut. -/
theorem exponent?_append {exponent : Option (Bool × List Char)} {rest : List Char}
    (h : ∀ minus digits, exponent = some (minus, digits) →
      digits ≠ [] ∧ ∀ c ∈ digits, isDigit c = true)
    (hcut : Cut rest) :
    exponent? (exponentChars exponent ++ rest) = some (exponent, rest) := by
  cases exponent with
  | none =>
    cases rest with
    | nil => rfl
    | cons c rest =>
      obtain ⟨-, -, he, hE⟩ := hcut c rfl
      show exponent? (c :: rest) = _
      unfold exponent?
      exact if_neg (not_or.2 ⟨he, hE⟩)
  | some marked =>
    obtain ⟨minus, digits⟩ := marked
    obtain ⟨hne, hdigits⟩ := h minus digits rfl
    obtain ⟨htake, hdrop⟩ := takeWhile_digits hdigits fun c hc => (hcut c hc).1
    have hsome : digits.isEmpty = false := List.isEmpty_eq_false_iff.2 hne
    show exponent? ('e' :: (if minus then '-' else '+') :: (digits ++ rest)) = _
    cases minus <;> simp [exponent?, htake, hdrop, hsome]

/-- The fraction is read up to what cannot be part of it. -/
theorem fraction?_append {fraction : Option (List Char)} {rest : List Char}
    (h : ∀ digits, fraction = some digits → digits ≠ [] ∧ ∀ c ∈ digits, isDigit c = true)
    (hrest : ∀ c, rest.head? = some c → isDigit c = false ∧ c ≠ '.') :
    fraction? (fractionChars fraction ++ rest) = some (fraction, rest) := by
  cases fraction with
  | none =>
    cases rest with
    | nil => rfl
    | cons c rest =>
      obtain ⟨-, hpoint⟩ := hrest c rfl
      show fraction? (c :: rest) = _
      unfold fraction?
      split
      · rename_i heq
        exact absurd (List.cons.inj heq).1 hpoint
      · rfl
  | some digits =>
    obtain ⟨hne, hdigits⟩ := h digits rfl
    obtain ⟨htake, hdrop⟩ := takeWhile_digits hdigits fun c hc => (hrest c hc).1
    show fraction? ('.' :: (digits ++ rest)) = _
    rw [fraction?, htake, hdrop]
    simp [hne]

/-- The digits before the point are read up to what is no digit. -/
theorem whole?_append {n : Numeral} (h : n.Proper) {rest : List Char}
    (hrest : ∀ c, rest.head? = some c → isDigit c = false) :
    whole? (n.whole ++ rest) = some (n.whole, rest) := by
  obtain ⟨htake, hdrop⟩ := takeWhile_digits h.whole hrest
  unfold whole?
  rw [htake, hdrop]
  split
  · rename_i hnil
    exact absurd hnil h.whole_ne_nil
  · rename_i c cs hzero
    have honly := h.leading (by rw [hzero]; rfl)
    rw [hzero] at honly
    cases honly
  · rfl

/-- What follows the digits of a numeral begins with a mark or with the cut. -/
theorem head?_exponentChars {exponent : Option (Bool × List Char)} {rest : List Char}
    (hcut : Cut rest) (c : Char) (hc : (exponentChars exponent ++ rest).head? = some c) :
    isDigit c = false ∧ c ≠ '.' := by
  cases exponent with
  | none => exact ⟨(hcut c hc).1, (hcut c hc).2.1⟩
  | some marked =>
    obtain rfl : 'e' = c := Option.some.inj hc
    exact ⟨by decide, by decide⟩

/-- **Numerals read back.** A proper numeral is read from its text, up to a cut. -/
theorem numeral?_chars {n : Numeral} (h : n.Proper) {rest : List Char} (hcut : Cut rest) :
    numeral? (n.chars ++ rest) = some (n, rest) := by
  have hafter := @head?_exponentChars n.exponent rest hcut
  have hbehind : ∀ c, (fractionChars n.fraction ++
      (exponentChars n.exponent ++ rest)).head? = some c → isDigit c = false := by
    intro c hc
    cases hfraction : n.fraction with
    | none =>
      rw [hfraction] at hc
      exact (hafter c hc).1
    | some digits =>
      rw [hfraction] at hc
      obtain rfl : '.' = c := Option.some.inj hc
      decide
  have hwhole := whole?_append h hbehind
  have hfraction := fraction?_append h.fraction hafter
  have hexponent := exponent?_append h.exponent hcut
  -- the sign is told by the first character, and no digit is a minus
  obtain ⟨d, ds, hd⟩ := List.exists_cons_of_ne_nil h.whole_ne_nil
  have hminus : d ≠ '-' := by
    rintro rfl
    exact absurd (h.whole '-' (by rw [hd]; exact List.mem_cons_self ..)) (by decide)
  rw [Numeral.chars_eq]
  obtain ⟨negative, whole, fraction, exponent⟩ := n
  cases negative with
  | true =>
    unfold numeral?
    simp only [↓reduceIte, List.cons_append, List.nil_append, List.append_assoc, hwhole, hfraction,
      hexponent, Option.bind_eq_bind, Option.bind_some, Option.pure_def]
  | false =>
    simp only [Bool.false_eq_true, ↓reduceIte, List.nil_append, List.append_assoc]
    unfold numeral?
    split
    rename_i heq
    split at heq
    · rename_i hfirst
      have hfirst : whole ++ _ = '-' :: _ := hfirst
      have hd : whole = d :: ds := hd
      rw [hd] at hfirst
      exact absurd (List.cons.inj hfirst).1 hminus
    · cases heq
      simp only [hwhole, hfraction, hexponent, Option.bind_eq_bind, Option.bind_some,
        Option.pure_def]

end Json.Token

/-! ## What numerals stand for -/

namespace Json

/-- Digits are taken in as long as their number fits in 64 bits. -/
theorem absorb_of_le {cs : List Char} {n : Nat}
    (h : cs.foldl (fun n c => n * 10 + (c.toNat - 48)) n ≤ maxUnsigned) :
    absorb n cs = (cs.foldl (fun n c => n * 10 + (c.toNat - 48)) n, []) := by
  have hgrows (cs : List Char) (n : Nat) :
      n ≤ cs.foldl (fun n c => n * 10 + (c.toNat - 48)) n := by
    induction cs generalizing n with
    | nil => exact Nat.le_refl n
    | cons c cs ih => exact Nat.le_trans (by omega) (ih (n * 10 + (c.toNat - 48)))
  induction cs generalizing n with
  | nil => rfl
  | cons c cs ih =>
    rw [List.foldl_cons] at h ⊢
    rw [absorb, if_pos (Nat.le_trans (hgrows cs _) h)]
    exact ih h

/-- A whole number that fits in 64 bits, with a sign or without one, is read back. -/
theorem reading?_ofInt {n : Int} (hlow : Int64.minValue.toInt ≤ n) (hhigh : n ≤ maxUnsigned) :
    reading? (.ofInt n) = some (.whole n) := by
  have hmin : Int64.minValue.toInt = -9223372036854775808 := by decide
  have hmax : maxUnsigned = 18446744073709551615 := by decide
  have hvalue : (natDigits n.natAbs).foldl (fun n c => n * 10 + (c.toNat - 48)) 0 = n.natAbs :=
    digitsValue_natDigits n.natAbs
  have habsorb : absorb 0 (natDigits n.natAbs) = (n.natAbs, []) := by
    have hfits : (natDigits n.natAbs).foldl (fun n c => n * 10 + (c.toNat - 48)) 0 ≤
        maxUnsigned := by
      rw [hvalue]
      omega
    rw [absorb_of_le hfits, hvalue]
  unfold reading? Numeral.ofInt
  simp only [habsorb, Option.isSome_none, List.isEmpty_nil, Bool.not_true, Bool.or_self,
    Bool.false_eq_true, ↓reduceIte]
  by_cases hnegative : n < 0
  · have hfits : ¬(n.natAbs = 0 ∨ -(n.natAbs : Int) < Int64.minValue.toInt) := by omega
    simp only [hnegative, decide_true, Bool.not_true, Bool.false_eq_true, ↓reduceIte, hfits]
    congr 2
    omega
  · simp only [hnegative, decide_false, Bool.not_false, ↓reduceIte]
    congr 2
    omega

end Json

end SqlGateway
