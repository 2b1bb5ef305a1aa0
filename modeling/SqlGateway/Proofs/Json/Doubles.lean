import Mathlib.Data.List.Basic
import SqlGateway.Json.Basic
import SqlGateway.Proofs.Json.Numerals

/-!
# The numerals of doubles

A double is written in the layout of data files: as its shortest decimal, with a fraction or an
exponent even if it is a whole number. So the numeral is one that JSON has, and it is never taken
for a whole number. The reader need not find the double again, as its second rounding can move the
result by one place; whether it does is a question of the double alone.

Main definition:

* `Decimal.PrintedBack`: where a double is wanted, the numeral of a double is read as that double.

Main results:

* `Decimal.proper_numeral`: the numeral of a double is a proper one.
* `Decimal.reading?_of_printedBack`: nothing needs to tell that a double is wanted.
-/

namespace SqlGateway

/-- A number where a double is wanted. -/
def Json.Reading.double : Json.Reading → Binary64
  | .whole n => if n < 0 then (Binary64.ofNat n.natAbs).neg else .ofNat n.natAbs
  | .real x => x

namespace Decimal

/-! ## The digits of a double -/

theorem grid_pos (e : Int) : 0 < (grid e).2 := by
  unfold grid
  split
  · exact Nat.one_pos
  · exact Nat.pow_pos (by decide)

/-- Zero lies outside of an interval that begins above it. -/
theorem Neighbourhood.not_holds_zero {nb : Neighbourhood} (hlow : 0 < nb.low) (e : Int) :
    nb.holds (grid e) 0 = false := by
  have hpos : 0 < nb.low * (grid e).2 := Nat.mul_pos hlow (grid_pos e)
  unfold holds
  dsimp only
  rw [Nat.zero_mul, Nat.zero_mul]
  split
  · rw [decide_eq_false (Nat.not_le_of_lt hpos), Bool.false_and]
  · rw [decide_eq_false (Nat.not_lt_zero _), Bool.false_and]

/-- A point of the grid that stands for a double other than zero is not zero. -/
theorem candidate?_digits_ne_zero {tie : Tie} {nb : Neighbourhood} {magnitude : Int} {n : Nat}
    {s : Shortest} (hlow : 0 < nb.low) (h : candidate? tie nb magnitude n = some s) :
    s.digits ≠ 0 := by
  have hbelow {k : Nat} (hholds : nb.holds (grid (magnitude - n)) k = true) : k ≠ 0 := by
    rintro rfl
    rw [Neighbourhood.not_holds_zero hlow] at hholds
    cases hholds
  unfold candidate? at h
  dsimp only at h
  generalize nb.value * (grid (magnitude - n)).2 / (nb.den * (grid (magnitude - n)).1) = below at h
  split at h
  · rename_i hholds _
    have hpoint : s.digits = below ∨ s.digits = below + 1 := by
      split at h
      · exact .inl (congrArg Shortest.digits (Option.some.inj h)).symm
      split at h
      · exact .inr (congrArg Shortest.digits (Option.some.inj h)).symm
      cases tie with
      | up => exact .inr (congrArg Shortest.digits (Option.some.inj h)).symm
      | even =>
        rw [← Option.some.inj h]
        dsimp only
        split
        · exact .inl rfl
        · exact .inr rfl
    rcases hpoint with hdigits | hdigits
    · rw [hdigits]
      exact hbelow hholds
    · rw [hdigits]
      exact Nat.succ_ne_zero below
  · rename_i hholds _
    cases h
    exact hbelow hholds
  · cases h
    exact Nat.succ_ne_zero _
  · cases h

theorem stripZeros_digits_ne_zero {s : Shortest} (h : s.digits ≠ 0) (fuel : Nat) :
    (stripZeros fuel s).digits ≠ 0 := by
  induction fuel generalizing s with
  | zero => exact h
  | succ fuel ih =>
    rw [stripZeros]
    split
    · rename_i hzero
      refine ih (s := ⟨s.digits / 10, s.exponent + 1⟩) ?_
      show s.digits / 10 ≠ 0
      omega
    · exact h

theorem significand_pos {x : Binary64} (h : x.isZero = false) : 0 < x.magnitude.significand := by
  unfold Binary64.magnitude
  unfold Binary64.isZero at h
  split
  · rename_i hexponent
    rw [hexponent] at h
    exact Nat.pos_of_ne_zero (by simpa using h)
  · exact Nat.add_pos_left (by decide) _

theorem low_pos {x : Binary64} (h : x.isZero = false) : 0 < (Neighbourhood.of x).low := by
  have hm := significand_pos h
  have hnum (e : Int) : 0 < (⟨1, e⟩ : Binary64.Scaled).ratio.1 := by
    unfold Binary64.Scaled.ratio
    split
    · exact Nat.shiftLeft_eq .. ▸ Nat.mul_pos Nat.one_pos (Nat.two_pow_pos _)
    · exact Nat.one_pos
  refine Nat.mul_pos ?_ (hnum (x.magnitude.exponent - 2))
  split <;> omega

/-- The shortest decimal of a double other than zero. -/
theorem shortest_digits (tie : Tie) {x : Binary64} (h : x.isZero = false) :
    (shortest tie x).digits ≠ 0 ∨ shortest tie x = ⟨0, 0⟩ := by
  unfold shortest
  rw [h, if_neg Bool.false_ne_true]
  dsimp only
  cases hfound : (List.range 17).findSome? fun i => candidate? tie (Neighbourhood.of x)
    (magnitudeOf (Neighbourhood.of x).value (Neighbourhood.of x).den) (i + 1) with
  | none => exact .inr rfl
  | some s =>
    obtain ⟨i, -, hcandidate⟩ := List.exists_of_findSome?_eq_some hfound
    exact .inl (stripZeros_digits_ne_zero (candidate?_digits_ne_zero (low_pos h) hcandidate) 17)

/-! ## The numeral of a double -/

/-- Digits before the point need no zero in front, unless a zero is all there is. -/
theorem proper_fixedNumeral {layout : Layout} {negative : Bool} {digits : List Char} {point : Int}
    (hne : digits ≠ []) (hdigits : ∀ c ∈ digits, isDigit c = true)
    (hzero : digits.head? = some '0' → digits = ['0'] ∧ point ≤ 1)
    (hwhole : ∀ ds, layout.wholeFraction = some ds → ds ≠ [] ∧ ∀ c ∈ ds, isDigit c = true) :
    (fixedNumeral layout negative digits point).Proper := by
  have hzeros (n : Nat) : ∀ c ∈ List.replicate n '0', isDigit c = true := fun c hc =>
    (List.eq_of_mem_replicate hc) ▸ rfl
  unfold fixedNumeral
  dsimp only
  split
  · refine ⟨List.cons_ne_nil _ _, fun c hc => List.mem_singleton.1 hc ▸ rfl, fun _ => rfl, ?_,
      nofun⟩
    rintro ds ⟨⟩
    exact ⟨List.append_ne_nil_of_right_ne_nil _ hne,
      List.forall_mem_append.2 ⟨hzeros _, hdigits⟩⟩
  rename_i hpoint
  split
  · refine ⟨List.append_ne_nil_of_left_ne_nil hne _,
      List.forall_mem_append.2 ⟨hdigits, hzeros _⟩, fun hhead => ?_, hwhole, nofun⟩
    dsimp only at hhead ⊢
    rw [List.head?_append_of_ne_nil _ hne] at hhead
    obtain ⟨rfl, hlast⟩ := hzero hhead
    have hnone : (point - (['0'] : List Char).length).toNat = 0 := by simp; omega
    rw [hnone]
    rfl
  · rename_i hcount
    have hinside : 0 < point.toNat ∧ point.toNat < digits.length := by omega
    refine ⟨fun hnil => ?_, fun c hc => hdigits c (List.mem_of_mem_take hc), fun hhead => ?_, ?_,
      nofun⟩
    · rcases List.take_eq_nil_iff.1 hnil with hnone | hnone
      · omega
      · exact hne hnone
    · -- a zero in front is the only digit, and the point stands behind it
      dsimp only at hhead
      rw [List.head?_take, if_neg (Nat.pos_iff_ne_zero.1 hinside.1)] at hhead
      obtain ⟨rfl, -⟩ := hzero hhead
      simp at hinside
      omega
    · rintro ds ⟨⟩
      refine ⟨fun hnil => ?_, fun c hc => hdigits c (List.mem_of_mem_drop hc)⟩
      have hlength := List.drop_eq_nil_iff.1 hnil
      omega

theorem proper_scientificNumeral {negative : Bool} {digits : List Char} {point : Int}
    (hne : digits ≠ []) (hdigits : ∀ c ∈ digits, isDigit c = true) :
    (scientificNumeral negative digits point).Proper := by
  obtain ⟨d, ds, rfl⟩ := List.exists_cons_of_ne_nil hne
  obtain ⟨hd, hds⟩ := List.forall_mem_cons.1 hdigits
  refine ⟨List.cons_ne_nil _ _, fun c hc => (List.mem_singleton.1 hc) ▸ hd, fun hhead => ?_, ?_, ?_⟩
  · exact congrArg (fun c => [c]) (Option.some.inj hhead)
  · intro digits hfraction
    unfold scientificNumeral at hfraction
    dsimp only at hfraction
    split at hfraction
    · cases hfraction
    · rename_i hmore
      cases hfraction
      refine ⟨fun hnil => hmore ?_, hds⟩
      have hnil : ds = [] := hnil
      rw [hnil]
      exact Nat.le_refl 1
  · rintro minus digits ⟨⟩
    exact ⟨natDigits_ne_nil _, fun c => isDigit_of_mem_natDigits⟩

/-- A double is written as JSON has numerals. -/
theorem proper_numeral (x : Binary64) : (Layout.data.numeral x).Proper := by
  have hwhole : ∀ ds, Layout.data.wholeFraction = some ds →
      ds ≠ [] ∧ ∀ c ∈ ds, isDigit c = true := by
    rintro ds ⟨⟩
    exact ⟨List.cons_ne_nil _ _, fun c hc => List.mem_singleton.1 hc ▸ rfl⟩
  unfold Layout.numeral
  cases hzero : x.isZero with
  | true =>
    rw [if_pos rfl]
    exact ⟨List.cons_ne_nil _ _, fun c hc => List.mem_singleton.1 hc ▸ rfl, fun _ => rfl, hwhole,
      nofun⟩
  | false =>
    rw [if_neg Bool.false_ne_true]
    dsimp only
    have hne := natDigits_ne_nil (shortest Layout.data.tie x).digits
    have hdigits : ∀ c ∈ natDigits (shortest Layout.data.tie x).digits, isDigit c = true :=
      fun c => isDigit_of_mem_natDigits
    split
    · refine proper_fixedNumeral hne hdigits (fun hhead => ?_) hwhole
      rcases shortest_digits Layout.data.tie hzero with hdigits | hnone
      · exact absurd hhead (head?_natDigits hdigits)
      · rw [hnone]
        decide
    · exact proper_scientificNumeral hne hdigits

/-! ## What it stands for -/

/-- There is always a fraction or an exponent. -/
theorem marked_numeral (x : Binary64) :
    (Layout.data.numeral x).fraction.isSome = true ∨
      (Layout.data.numeral x).exponent.isSome = true := by
  unfold Layout.numeral
  split
  · exact .inl rfl
  dsimp only
  split
  · refine .inl ?_
    unfold fixedNumeral
    dsimp only
    split
    · rfl
    split <;> rfl
  · exact .inr rfl

theorem exists_real_of_marked {n : Numeral} {reading : Json.Reading}
    (hmarked : n.fraction.isSome = true ∨ n.exponent.isSome = true)
    (h : Json.reading? n = some reading) : ∃ x, reading = .real x := by
  unfold Json.reading? at h
  dsimp only at h
  split at h
  · obtain ⟨x, -, rfl⟩ := Option.map_eq_some_iff.1 h
    exact ⟨x, rfl⟩
  · rename_i hfraction
    rw [hfraction] at hmarked
    rw [hmarked.resolve_left Bool.false_ne_true, Bool.true_or, if_pos rfl] at h
    obtain ⟨x, -, rfl⟩ := Option.map_eq_some_iff.1 h
    exact ⟨x, rfl⟩

/-- The double is read again where a double is wanted, whether the numeral is one of a whole number
or not. -/
def PrintedBack (x : Binary64) : Prop :=
  (Json.reading? (Layout.data.numeral x)).map Json.Reading.double = some x

instance (x : Binary64) : Decidable (PrintedBack x) :=
  inferInstanceAs (Decidable (_ = _))

/-- Such a double is read as a double also where nothing tells what is wanted. -/
theorem reading?_of_printedBack {x : Binary64} (h : PrintedBack x) :
    Json.reading? (Layout.data.numeral x) = some (.real x) := by
  obtain ⟨reading, hreading, hx⟩ := Option.map_eq_some_iff.1 h
  obtain ⟨y, rfl⟩ := exists_real_of_marked (marked_numeral x) hreading
  obtain rfl : y = x := hx
  exact hreading

end Decimal

end SqlGateway
