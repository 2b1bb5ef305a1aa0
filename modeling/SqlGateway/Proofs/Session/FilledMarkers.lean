import SqlGateway.Backend.Scripted
import SqlGateway.Proofs.Session.Sent

/-!
# Filled markers

Markers are filled in one pass over a statement in which the prefix is in its place already. What
becomes of a character is said by the character itself and by the number of markers before it, so
the text of a value is looked at by nobody: not for markers, and not for the stand-in of the
prefix.

Main definition:

* `Statement.filled`: what a character of a statement becomes.

Main results:

* `Statement.toList_fillBinds`: filling a statement is filling each of its characters.
* `Session.query_fills_markers`: what a query sends while no results are kept.
-/

namespace SqlGateway

/-! ## Statements -/

namespace Statement

/-- What a character becomes, given those before it: a marker has the number of the markers before
it and becomes the literal of the value with this number, if there is one. -/
def filled (d : Dialect) (values : List Value) (before : List Char) (c : Char) : List Char :=
  if c = '?' then (values[before.count '?']?).elim ['?'] fun v => (d.literal v).toList else [c]

/-- A character that is no marker leaves the values to those behind it. -/
theorem filled_cons_of_ne (d : Dialect) (values : List Value) {c : Char} (hc : c ≠ '?')
    (before : List Char) : filled d values (c :: before) = filled d values before := by
  unfold filled
  rw [List.count_cons_of_ne hc]

/-- A marker takes the first of them away. -/
theorem filled_marker (d : Dialect) (v : Value) (values : List Value) (before : List Char) :
    filled d (v :: values) ('?' :: before) = filled d values before := by
  unfold filled
  rw [List.count_cons_self, List.getElem?_cons_succ]

theorem filled_nil (d : Dialect) (before : List Char) (c : Char) : filled d [] before c = [c] := by
  unfold filled
  split
  · next hc => rw [hc]; rfl
  · rfl

/-- Each character of a text, with those before it. -/
theorem flatMap_zipIdx_cons {α : Type} (f : List Char → Char → List α) (c : Char) (cs : List Char) :
    ((c :: cs).zipIdx.flatMap fun (x, i) => f ((c :: cs).take i) x) =
      f [] c ++ cs.zipIdx.flatMap fun (x, i) => f (c :: cs.take i) x := by
  rw [List.zipIdx_cons, List.flatMap_cons, List.zipIdx_succ, List.flatMap_map]
  rfl

theorem fillMarkers_eq_flatMap (d : Dialect) (values : List Value) (cs : List Char) :
    fillMarkers (values.map fun v => (d.literal v).toList) cs =
      cs.zipIdx.flatMap fun (c, i) => filled d values (cs.take i) c := by
  induction cs generalizing values with
  | nil => cases values <;> rfl
  | cons c cs ih =>
    rw [flatMap_zipIdx_cons]
    cases values with
    | nil =>
      -- without values nothing changes
      have hsame : (cs.zipIdx.flatMap fun x => [x.1]) = cs := by
        rw [← List.map_eq_flatMap, List.zipIdx_map_fst]
      simp only [filled_nil, hsame]
      rfl
    | cons v values =>
      have hnext := ih (v :: values)
      rw [List.map_cons] at hnext ⊢
      rw [fillMarkers]
      by_cases hc : c = '?'
      · rw [if_pos hc, ih, hc]
        simp only [filled_marker]
        rfl
      · rw [if_neg hc, hnext]
        simp only [filled_cons_of_ne d _ hc]
        rw [filled, if_neg hc]
        rfl

/-- A statement is filled character by character. -/
theorem toList_fillBinds (d : Dialect) (sql : String) (values : List Value) :
    (fillBinds d sql values).toList =
      sql.toList.zipIdx.flatMap fun (c, i) => filled d values (sql.toList.take i) c := by
  rw [fillBinds, String.toList_ofList, fillMarkers_eq_flatMap]

end Statement

/-! ## Queries -/

namespace Session

variable {C E : Type} [Connection C] [Backend C E]

/-- **Bind markers.** While no results are kept, a query sends one text and nothing else, unless the
connection cannot be opened. The prefix is put in its place in the caller's statement alone, and of
what that gives each character stays or, as a marker, becomes the literal of its value. -/
theorem query_fills_markers {sql : String} (hblank : Text.isBlank sql = false) (binds : List Value)
    {s : Session (Traced C)} (hcache : s.cacheOn = false) (w : World E) :
    let swapped := (PrefixSwap.apply s.config.tablePrefix s.config.swapPrefix sql).toList
    let r := (query sql binds : Action (Session (Traced C)) E QueryOutcome).run (s, w)
    ∃ text : String, text.toList = (swapped.zipIdx.flatMap fun (c, i) =>
        Statement.filled s.dialect binds (swapped.take i) c) ∧
      (Sends [text] s r.2.1 ∨ NotOpened s w r.1 r.2.1) := by
  intro swapped r
  refine ⟨s.finalText sql binds, Statement.toList_fillBinds _ _ _, ?_⟩
  have hlive := sent_or_notOpened_live (s.finalText sql binds) s w
  -- the store is not asked, since no results are kept
  have hr : r = (do
      let handle? ← send (s.finalText sql binds)
      (settle (s.finalText sql binds) handle?).act :
        Action (Session (Traced C)) E QueryOutcome).run (s, w) := by
    unfold r query
    dsimp only
    rw [if_neg (Bool.eq_false_iff.1 hblank), Action.run_bind_apply, Action.run_subject_apply]
    dsimp only
    rw [hcache, Bool.false_and, if_neg Bool.false_ne_true]
  rw [hr]
  exact hlive

/-- A session in which the prefix has a stand-in. -/
def swappingStart : Session (Traced Scripted) :=
  create { ConnectionConfig.ofKind "mock" with tablePrefix := "app_", swapPrefix := "tbl_" }
    (Traced.untouched (Scripted.ofDialect .mysql))

/-- Three markers and two values, the first of which has a marker and the stand-in in it. -/
theorem query_fills_markers_opaquely :
    let sql := "SELECT ? FROM tbl_t WHERE a = ? AND b = ?"
    let r := (query sql [.text "? tbl_x", .null] :
      Action (Session (Traced Scripted)) Script QueryOutcome).run
        (swappingStart, ⟨.empty, default⟩)
    Text.isBlank sql = false ∧ swappingStart.cacheOn = false ∧
      Sends ["SELECT '? tbl_x' FROM app_t WHERE a = NULL AND b = ?"] swappingStart r.2.1 := by
  intro sql r
  have hblank : Text.isBlank sql = false := by decide +kernel
  have hcache : swappingStart.cacheOn = false := rfl
  obtain ⟨text, htext, hsent⟩ := query_fills_markers hblank [.text "? tbl_x", .null] hcache
    (⟨.empty, default⟩ : World Script)
  have hfilled : text = "SELECT '? tbl_x' FROM app_t WHERE a = NULL AND b = ?" :=
    String.toList_injective (htext.trans (by decide +kernel))
  -- the connection can be opened
  have hopens : ((connect : Action (Session (Traced Scripted)) Script Unit).run
      (swappingStart, ⟨.empty, default⟩)).1.isOk = true := by
    decide +kernel
  rcases hsent with hsent | ⟨-, -, e, hopen, -⟩
  · exact ⟨hblank, hcache, hfilled ▸ hsent⟩
  · rw [hopen] at hopens
    cases hopens

end Session

end SqlGateway
