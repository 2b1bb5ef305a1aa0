import SqlGateway.Proofs.Json.Doubles
import SqlGateway.Proofs.Json.RoundTrip
import SqlGateway.Result.Snapshot

/-!
# Snapshots read back

A snapshot is kept as JSON text without any tags, so that a value has to be told from the kind of
its JSON form: nothing, a truth value, a whole number, a number with a fraction or an exponent, a
string, or an array of bytes. The one kind of value that does not come back is a double that is
infinite or no number: it is written as nothing.

Main definitions:

* `Value.kept`: what becomes of a value in a text.
* `Value.PrintedBack`: a value that is no double, or a double that its numeral is read as.
* `Value.IsExact`: any value but a double.
* `Snapshot.Storable`: a snapshot of such values, with a count that fits in 64 bits.

Main results:

* `Value.ofJson?_toJson_kept`: what comes back for a value, of the same kind.
* `Snapshot.decode?_encode_kept`: what comes back for a snapshot.
* `Snapshot.decode?_encode`: a snapshot without doubles comes back from its text.
-/

namespace SqlGateway

open Decimal

/-! ## Legible trees -/

namespace Json

theorem legible_ofInt (n : Int) : (ofInt n).Legible :=
  Numeral.proper_ofInt n

theorem legible_array {items : List Json} (h : ∀ item ∈ items, item.Legible) :
    (array items).Legible := by
  show LegibleItems items
  induction items with
  | nil => exact trivial
  | cons item items ih =>
    exact ⟨h item (List.mem_cons_self ..), ih fun item hitem =>
      h item (List.mem_cons_of_mem _ hitem)⟩

end Json

/-- What reading makes of every printed item of a list, it makes of the list. -/
theorem mapM_map_eq_map {α β : Type} {print : α → β} {read : β → Option α} {keep : α → α}
    {xs : List α} (h : ∀ x ∈ xs, read (print x) = some (keep x)) :
    (xs.map print).mapM read = some (xs.map keep) := by
  induction xs with
  | nil => rfl
  | cons x xs ih =>
    rw [List.map_cons, List.mapM_cons, h x (List.mem_cons_self ..),
      ih fun x hx => h x (List.mem_cons_of_mem _ hx)]
    rfl

/-- Reading undoes printing on every item of a list, so it does on the list. -/
theorem mapM_map_eq_some {α β : Type} {print : α → β} {read : β → Option α} {xs : List α}
    (h : ∀ x ∈ xs, read (print x) = some x) : (xs.map print).mapM read = some xs := by
  have hmap : (xs.map print).mapM read = some (xs.map id) := mapM_map_eq_map h
  rw [hmap, List.map_id]

/-! ## Values -/

namespace Value

/-- The value is no double. -/
def IsExact : Value → Prop
  | real _ => False
  | _ => True

/-- What becomes of a value in a text. -/
def kept : Value → Value
  | real x => if x.isFinite then real x else null
  | v => v

/-- If the value is a finite double, then its numeral is read as this double. -/
def PrintedBack : Value → Prop
  | real x => x.isFinite = true → Decimal.PrintedBack x
  | _ => True

instance : (v : Value) → Decidable v.PrintedBack
  | real x => inferInstanceAs (Decidable (x.isFinite = true → Decimal.PrintedBack x))
  | null | bool _ | int _ | text _ | bytes _ => isTrue trivial

theorem kept_of_isExact {v : Value} (h : v.IsExact) : v.kept = v := by
  cases v with
  | real x => exact absurd h id
  | _ => rfl

theorem printedBack_of_isExact {v : Value} (h : v.IsExact) : v.PrintedBack := by
  cases v with
  | real x => exact absurd h id
  | _ => trivial

/-- Every value has a text of its own form. -/
theorem legible_toJson (v : Value) : v.toJson.Legible := by
  cases v with
  | null | bool | text => exact trivial
  | int n => exact Json.legible_ofInt _
  | real x =>
    show (Json.ofBinary64 x).Legible
    unfold Json.ofBinary64
    split
    · exact proper_numeral x
    · exact trivial
  | bytes bs =>
    refine Json.legible_array fun item hitem => ?_
    obtain ⟨b, -, rfl⟩ := List.mem_map.1 hitem
    exact Json.legible_ofInt _

theorem int64?_toInt (n : Int64) : int64? n.toInt = some n := by
  unfold int64?
  rw [if_pos ⟨Int64.minValue_le_toInt n, Int64.toInt_le n⟩, Int64.ofInt_toInt]

theorem byte?_ofNat (b : UInt8) : byte? (.ofNat b.toNat) = some b := by
  have hb := b.toNat_lt
  have hread : Json.reading? (.ofInt b.toNat) = some (.whole b.toNat) :=
    Json.reading?_ofInt (by rw [show Int64.minValue.toInt = -9223372036854775808 by decide]; omega)
      (by rw [show (Json.maxUnsigned : Nat) = 18446744073709551615 by decide]; omega)
  have hrange : (0 : Int) ≤ b.toNat ∧ (b.toNat : Int) < 256 := by omega
  simp only [byte?, Json.ofNat, Json.ofInt, hread, hrange, and_self, ↓reduceIte, Int.toNat_natCast,
    UInt8.ofNat_toNat]

/-- A value comes back from its JSON form as the same kind of value, but for a double that has no
such form. -/
theorem ofJson?_toJson_kept {v : Value} (h : v.PrintedBack) : ofJson? v.toJson = some v.kept := by
  cases v with
  | null | bool | text => rfl
  | int n =>
    have hlow := Int64.minValue_le_toInt n
    have hhigh := Int64.toInt_le n
    have hmax : Int64.maxValue.toInt ≤ Json.maxUnsigned := by decide
    show (Json.reading? (.ofInt n.toInt)).map _ = _
    rw [Json.reading?_ofInt hlow (Int.le_trans hhigh hmax), Option.map_some]
    simp only [int64?_toInt]
    rfl
  | real x =>
    show ofJson? (Json.ofBinary64 x) = some (if x.isFinite then real x else null)
    unfold Json.ofBinary64
    split
    · rename_i hfinite
      show (Json.reading? (Layout.data.numeral x)).map _ = _
      rw [reading?_of_printedBack (h hfinite), Option.map_some]
    · rfl
  | bytes bs =>
    show ((bs.map fun b => Json.ofNat b.toNat).mapM byte?).map bytes = _
    rw [mapM_map_eq_some fun b _ => byte?_ofNat b]
    rfl

end Value

/-! ## Snapshots -/

namespace Snapshot

/-- The snapshot can be kept in a file: it holds no doubles, and its count fits in 64 bits. -/
structure Storable (s : Snapshot) : Prop where
  exact : ∀ row ∈ s.rows, ∀ v ∈ row, v.IsExact
  numRows_le : s.numRows ≤ Json.maxUnsigned

/-- What becomes of a snapshot in a text. -/
def kept (s : Snapshot) : Snapshot :=
  { s with rows := s.rows.map (List.map Value.kept) }

theorem legible_toJson (s : Snapshot) : s.toJson.Legible := by
  have hcolumns : (Json.array (s.columns.map .text)).Legible := by
    refine Json.legible_array fun item hitem => ?_
    obtain ⟨name, -, rfl⟩ := List.mem_map.1 hitem
    exact trivial
  have hrows : (Json.array (s.rows.map fun row => .array (row.map Value.toJson))).Legible := by
    refine Json.legible_array fun item hitem => ?_
    obtain ⟨row, hrow, rfl⟩ := List.mem_map.1 hitem
    refine Json.legible_array fun item hitem => ?_
    obtain ⟨v, hv, rfl⟩ := List.mem_map.1 hitem
    exact Value.legible_toJson v
  exact ⟨hcolumns, hrows, Json.legible_ofInt _, trivial⟩

theorem ofJson?_toJson_kept {s : Snapshot} (hvalues : ∀ row ∈ s.rows, ∀ v ∈ row, v.PrintedBack)
    (hcount : s.numRows ≤ Json.maxUnsigned) : ofJson? s.toJson = some s.kept := by
  have hcolumns : items? DataTree.text? (Json.array (s.columns.map .text)) = some s.columns :=
    mapM_map_eq_some fun _ _ => rfl
  have hrows : items? (items? Value.ofJson?)
      (.array (s.rows.map fun row => .array (row.map Value.toJson))) = some s.kept.rows :=
    mapM_map_eq_map fun row hrow =>
      mapM_map_eq_map fun v hv => Value.ofJson?_toJson_kept (hvalues row hrow v hv)
  have hnumRows : DataTree.natural? (Json.ofNat s.numRows) = some s.numRows := by
    have hread : Json.reading? (.ofInt s.numRows) = some (.whole s.numRows) :=
      Json.reading?_ofInt
        (by rw [show Int64.minValue.toInt = -9223372036854775808 by decide]; omega)
        (Int.ofNat_le.2 hcount)
    simp only [DataTree.natural?, Json.natural?, Json.ofNat, Json.ofInt, hread,
      Int.natCast_nonneg, ↓reduceIte, Int.toNat_natCast]
  show (do return ({
    columns := ← items? DataTree.text? (Json.array (s.columns.map .text))
    rows := ← items? (items? Value.ofJson?)
      (.array (s.rows.map fun row => .array (row.map Value.toJson)))
    numRows := ← DataTree.natural? (Json.ofNat s.numRows) } : Snapshot)) = some s.kept
  rw [hcolumns, hrows, hnumRows]
  rfl

/-- What comes back from the text of a snapshot. -/
theorem decode?_encode_kept {s : Snapshot} (hvalues : ∀ row ∈ s.rows, ∀ v ∈ row, v.PrintedBack)
    (hcount : s.numRows ≤ Json.maxUnsigned) : decode? s.encode = some s.kept := by
  unfold decode? encode Json.compact
  rw [String.toList_ofList, Json.parse?_chars s.legible_toJson]
  exact ofJson?_toJson_kept hvalues hcount

/-- **Snapshots read back.** A snapshot comes back from the text in which it is kept. -/
theorem decode?_encode {s : Snapshot} (h : s.Storable) : decode? s.encode = some s := by
  have hrows : s.rows.map (List.map Value.kept) = s.rows :=
    (List.map_congr_left fun row hrow =>
      (List.map_congr_left fun v hv => Value.kept_of_isExact (h.exact row hrow v hv)).trans
        (List.map_id row)).trans (List.map_id s.rows)
  rw [decode?_encode_kept (fun row hrow v hv =>
    Value.printedBack_of_isExact (h.exact row hrow v hv)) h.numRows_le, kept, hrows]

end Snapshot

end SqlGateway
