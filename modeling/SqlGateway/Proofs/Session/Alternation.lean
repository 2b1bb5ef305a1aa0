import Mathlib.Data.List.Chain
import SqlGateway.Proofs.Session.Control

/-!
# Control calls take turns

However a session is used, and whatever the backend answers, the beginnings and the ends that reach
the backend alternate: a transaction is begun only after the last one was ended, and ended once. The
counter of open levels tells at any time which of the two comes next.

The invariant is `Session.InStep`. Opening and closing the outermost level keep it by adding the one
mark that is due, everything else by adding none. A rejected statement in debug mode closes all
levels, from inside a query; it does so by closing one after the other, so it keeps it as well.

Main definitions:

* `Mark.Alternate`: beginnings and ends take turns.
* `Session.InStep`: they do on the trace of a session, and its counter is up to date.

Main results:

* `Session.governs_perform_inStep`: every operation keeps sessions in step.
* `Session.control_calls_alternate`: so they are at every point of every run.
-/

namespace SqlGateway

/-! ## Marks in turn -/

namespace Mark

/-- Beginnings and ends take turns, and the first mark is a beginning. -/
def Alternate (ms : List Mark) : Prop :=
  (ended :: ms).IsChain (· ≠ ·)

/-- The mark that is due keeps the turns. -/
theorem alternate_concat {ms : List Mark} {m : Mark} (h : Alternate ms)
    (hm : ms.getLast?.getD ended ≠ m) : Alternate (ms ++ [m]) := by
  unfold Alternate at *
  rw [← List.cons_append, List.isChain_append]
  refine ⟨h, List.isChain_singleton m, fun x hx y hy => ?_⟩
  rw [List.getLast?_cons] at hx
  rw [← Option.mem_some.1 hx, ← Option.mem_some.1 hy]
  exact hm

end Mark

namespace Session

variable {C E α : Type}

/-- The control calls took turns, and a level is open exactly if a beginning came last. -/
def InStep (s : Session (Traced C)) : Prop :=
  Mark.Alternate s.marks ∧ (0 < s.transaction.depth ↔ s.marks.getLast? = some .begun)

theorem inStep_create (config : ConnectionConfig) (conn : C) :
    (create config (Traced.untouched conn)).InStep :=
  ⟨List.isChain_singleton _, by simp [marks, create, Traced.untouched, Transaction.initial]⟩

/-- What marks nothing and opens or closes nothing keeps a session in step. -/
theorem InStep.of_adds_nil {s t : Session (Traced C)} (hs : s.InStep) (h : Adds [] s t)
    (hdepth : 0 < t.transaction.depth ↔ 0 < s.transaction.depth) : t.InStep := by
  have hmarks : t.marks = s.marks := by rw [h.marks_eq, List.append_nil]
  unfold InStep
  rw [hmarks, hdepth]
  exact hs

/-- A beginning is due while nothing is open. -/
theorem InStep.of_adds_begun {s t : Session (Traced C)} (hs : s.InStep) (h : Adds [.begun] s t)
    (hclosed : s.transaction.depth = 0) (hopen : 0 < t.transaction.depth) : t.InStep := by
  obtain ⟨halternate, hlast⟩ := hs
  have hmarks := h.marks_eq
  refine ⟨?_, ?_⟩
  · rw [hmarks]
    -- were a beginning the last mark, a level would be open
    refine Mark.alternate_concat halternate fun hbegun => ?_
    have hsome : s.marks.getLast? = some .begun := by
      cases hl : s.marks.getLast? with
      | none => rw [hl] at hbegun; cases hbegun
      | some m => rw [hl] at hbegun; exact congrArg some hbegun
    have := hlast.2 hsome
    omega
  · rw [hmarks, List.getLast?_concat]
    exact ⟨fun _ => rfl, fun _ => hopen⟩

/-- An end is due while a level is open. -/
theorem InStep.of_closing {s t : Session (Traced C)} {failed accepted : Bool} (hs : s.InStep)
    (hevents : t.conn.events = s.conn.events ++ [⟨.closing failed, accepted⟩])
    (hopen : 0 < s.transaction.depth) (hclosed : t.transaction.depth = 0) : t.InStep := by
  obtain ⟨halternate, hlast⟩ := hs
  have hmarks : t.marks = s.marks ++ [.ended] := by
    unfold marks
    rw [hevents, List.filterMap_append]
    simp only [List.filterMap_cons, mark?_closing, List.filterMap_nil]
  refine ⟨?_, ?_⟩
  · rw [hmarks]
    refine Mark.alternate_concat halternate ?_
    rw [hlast.1 hopen]
    decide
  · rw [hmarks, List.getLast?_concat, hclosed]
    decide

/-! ## Operations on transactions -/

/-- The law of staying in step. -/
abbrev stayingInStep (C : Type) : Law (Session (Traced C)) :=
  .preserving InStep

/-- Work on the connection that marks nothing keeps sessions in step. -/
theorem stayingInStep_of_upkeep {s t : Session (Traced C)}
    (h : (upkeep (Traced.appending fun e => e.mark? = none)).rel s t) :
    (stayingInStep C).rel s t := by
  obtain ⟨-, htransaction, added, hevents, hnone⟩ := h
  intro hs
  have hmarks : t.marks = s.marks := by
    unfold marks
    rw [hevents, List.filterMap_append, List.filterMap_eq_nil_iff.2 hnone, List.append_nil]
  unfold InStep
  rw [hmarks, htransaction]
  exact hs

variable [Connection C] [Backend C E]

theorem governs_startGroup_inStep (test : Bool) :
    (stayingInStep C).Governs (startGroup test : Action (Session (Traced C)) E Unit).run := by
  intro ⟨s, w⟩ hs
  by_cases henabled : s.transaction.enabled = true
  · rcases Nat.eq_zero_or_pos s.transaction.depth with hdepth | hdepth
    · -- a start that fails adds no mark, and leaves no level open
      obtain ⟨-, htransaction, hadds⟩ := startGroup_outer test w henabled hdepth
      generalize (startGroup test : Action (Session (Traced C)) E Unit).run (s, w) = r at *
      cases hok : r.1.isOk with
      | true =>
        rw [hok] at htransaction hadds
        exact hs.of_adds_begun hadds hdepth (by rw [htransaction]; exact Nat.one_pos)
      | false =>
        rw [hok] at htransaction hadds
        refine hs.of_adds_nil hadds ?_
        rw [htransaction, hdepth]
        rfl
    · rw [run_startGroup_inner test w henabled hdepth]
      refine hs.of_adds_nil ⟨[], by simp, rfl, by simp⟩ ?_
      exact ⟨fun _ => hdepth, fun _ => Nat.succ_pos _⟩
  · rw [run_startGroup_disabled test w (Bool.eq_false_iff.2 henabled)]
    exact hs

theorem governs_beginManual_inStep (test : Bool) :
    (stayingInStep C).Governs (beginManual test : Action (Session (Traced C)) E Unit).run := by
  intro ⟨s, w⟩ hs
  by_cases hidle : s.transaction.enabled = false ∨ 0 < s.transaction.depth
  · rw [run_beginManual_idle test w hidle]
    exact hs
  · obtain ⟨henabled, hdepth⟩ := not_or.1 hidle
    have hdepth : s.transaction.depth = 0 := Nat.eq_zero_of_not_pos hdepth
    obtain ⟨-, htransaction, hadds⟩ :=
      beginManual_outer test w (eq_true_of_ne_false henabled) hdepth
    generalize (beginManual test : Action (Session (Traced C)) E Unit).run (s, w) = r at *
    cases hok : r.1.isOk with
    | true =>
      rw [hok] at htransaction hadds
      exact hs.of_adds_begun hadds hdepth (by rw [htransaction]; exact Nat.one_pos)
    | false =>
      rw [hok] at htransaction hadds
      refine hs.of_adds_nil hadds ?_
      rw [htransaction, hdepth]
      rfl

theorem governs_completeGroup_inStep :
    (stayingInStep C).Governs (completeGroup : Action (Session (Traced C)) E _).run := by
  intro ⟨s, w⟩ hs
  by_cases henabled : s.transaction.enabled = true
  · by_cases hdepth : s.transaction.depth = 1
    · obtain ⟨-, htransaction, hevents, -⟩ := completeGroup_outer w henabled hdepth
      have hopen : 0 < s.transaction.depth := by omega
      exact hs.of_closing hevents hopen (by rw [htransaction])
    · rw [run_completeGroup_inner w henabled hdepth]
      refine hs.of_adds_nil ⟨[], by simp, rfl, by simp⟩ ?_
      -- without the outermost level, a level less is still a level
      show 0 < s.transaction.leave.2.depth ↔ 0 < s.transaction.depth
      rw [Transaction.depth_leave]
      omega
  · rw [run_completeGroup_disabled w (Bool.eq_false_iff.2 henabled)]
    exact hs

theorem governs_endManual_inStep (failed : Bool) :
    (stayingInStep C).Governs
      (endManual (closeGroup failed) : Action (Session (Traced C)) E Unit).run := by
  intro ⟨s, w⟩ hs
  by_cases hidle : s.transaction.enabled = false ∨ s.transaction.depth ≠ 1
  · rw [run_endManual_idle _ w hidle]
    exact hs
  · obtain ⟨henabled, hdepth⟩ := not_or.1 hidle
    have hdepth : s.transaction.depth = 1 := not_not.1 hdepth
    obtain ⟨-, htransaction, hevents⟩ :=
      endManual_outer failed w (eq_true_of_ne_false henabled) hdepth
    have hopen : 0 < s.transaction.depth := by omega
    exact hs.of_closing hevents hopen (by rw [htransaction])

/-! ## Statements -/

theorem governs_execute_inStep (sql : String) :
    (stayingInStep C).Governs
      (onConn (Backend.execute sql) : Action (Session (Traced C)) E _).run :=
  Law.Governs.mono (governs_onConn (Traced.governs_noting fun _ => rfl))
    fun _ _ => stayingInStep_of_upkeep

/-- In debug mode a rejected statement closes all levels from inside the query. -/
theorem governs_dispatch_inStep (sql : String) :
    (stayingInStep C).Governs (dispatch sql : Action (Session (Traced C)) E _).run := by
  refine governs_dispatch (fun _ _ _ => stayingInStep_of_upkeep (upkeep_notes ..))
    (governs_execute_inStep sql)
    (fun s hs => ?_) governs_completeGroup_inStep
  refine hs.of_adds_nil ⟨[], by simp, rfl, by simp⟩ ?_
  rw [Transaction.depth_markFailed]

/-! ## Runs -/

/-- Every operation keeps sessions in step. -/
theorem governs_perform_inStep (op : Operation) :
    (stayingInStep C).Governs (perform op : Action (Session (Traced C)) E Answer).run := by
  have hchange {f : Session (Traced C) → Session (Traced C)}
      (h : ∀ s, (f s).conn = s.conn ∧ (f s).transaction.depth = s.transaction.depth) :
      (stayingInStep C).Governs (change f : Action (Session (Traced C)) E Answer).run := by
    refine .run_bind (.run_modifySubject fun s hs => ?_) fun _ => .run_pure
    exact hs.of_adds_nil ⟨[], by rw [(h s).1, List.append_nil], rfl, by simp⟩ (by rw [(h s).2])
  by_cases hplain : op.isPlain = true
  · exact governs_plain hplain (.of_upkeep (Traced.upkept fun _ => BackendEvent.mark?_of_isUpkeep)
      (fun _ _ => stayingInStep_of_upkeep) governs_dispatch_inStep governs_execute_inStep)
  · cases op with
    | startGroup test => exact .run_bind (governs_startGroup_inStep test) fun _ => .run_pure
    | completeGroup => exact .run_bind governs_completeGroup_inStep fun _ => .run_pure
    | beginManual test => exact .run_bind (governs_beginManual_inStep test) fun _ => .run_pure
    | commitManual => exact .run_bind (governs_endManual_inStep false) fun _ => .run_pure
    | rollbackManual => exact .run_bind (governs_endManual_inStep true) fun _ => .run_pure
    | disableTransactions => exact hchange fun _ => ⟨rfl, rfl⟩
    | setStrict strict => exact hchange fun _ => ⟨rfl, rfl⟩
    | setCacheDir directory => exact hchange fun _ => ⟨rfl, rfl⟩
    | setTablePrefix tablePrefix => exact hchange fun _ => ⟨rfl, rfl⟩
    | _ => exact absurd rfl hplain

/-- The operation opens or closes a level, and not the outermost one. -/
def Operation.isInner (t : Transaction) : Operation → Bool
  | startGroup _ | beginManual _ => t.depth > 0
  | completeGroup | commitManual | rollbackManual => t.depth ≠ 1
  | _ => false

/-- Inner levels do not reach the connection. -/
theorem conn_perform_of_isInner {op : Operation} {s : Session (Traced C)} (w : World E)
    (h : op.isInner s.transaction = true) :
    ((perform op : Action (Session (Traced C)) E Answer).run (s, w)).2.1.conn = s.conn := by
  cases op with
  | startGroup test =>
    rw [perform, state_answer (startGroup test) (fun _ => .done)]
    by_cases henabled : s.transaction.enabled = true
    · rw [run_startGroup_inner test w henabled (of_decide_eq_true h)]
    · rw [run_startGroup_disabled test w (Bool.eq_false_iff.2 henabled)]
  | completeGroup =>
    rw [perform, state_answer completeGroup .transaction]
    by_cases henabled : s.transaction.enabled = true
    · rw [run_completeGroup_inner w henabled (of_decide_eq_true h)]
    · rw [run_completeGroup_disabled w (Bool.eq_false_iff.2 henabled)]
  | beginManual test =>
    rw [perform, state_answer (beginManual test) (fun _ => .done)]
    rw [run_beginManual_idle test w (.inr (of_decide_eq_true h))]
  | commitManual =>
    rw [perform, state_answer commitManual (fun _ => .done)]
    rw [commitManual, run_endManual_idle _ w (.inr (of_decide_eq_true h))]
  | rollbackManual =>
    rw [perform, state_answer rollbackManual (fun _ => .done)]
    rw [rollbackManual, run_endManual_idle _ w (.inr (of_decide_eq_true h))]
  | _ => cases h

/-- **Alternation.** At every point of every run, the beginnings and ends that reached the backend
have taken turns, and a level is open exactly if a beginning came last. What happens on inner levels
stays on this side of the connection. -/
theorem control_calls_alternate (config : ConnectionConfig) (conn : C) (w : World E)
    (ops : List Operation) :
    let s := (after ops (create config (Traced.untouched conn), w)).1
    Mark.Alternate s.marks ∧
      (0 < s.transaction.depth ↔ s.marks.getLast? = some .begun) ∧
      ∀ op (w' : World E), op.isInner s.transaction = true →
        ((perform op : Action (Session (Traced C)) E Answer).run (s, w')).2.1.conn = s.conn := by
  intro s
  have hs : s.InStep := rel_after (fun op _ => governs_perform_inStep op)
    (create config (Traced.untouched conn), w) (inStep_create config conn)
  exact ⟨hs.1, hs.2, fun op w' => conn_perform_of_isInner w'⟩

end Session

end SqlGateway
