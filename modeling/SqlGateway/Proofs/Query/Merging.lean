import SqlGateway.Database
import SqlGateway.Proofs.Law
import SqlGateway.Proofs.OrderedMap

/-!
# Merging twice

To compile is to merge: the snapshot is laid under the live clauses, and it stays there, so the next
call that merges finds in the live clauses all that it is about to put under them. It must not put
it there again. Lists keep the first of what occurs twice and assignments keep their place, and so
the second merge finds everything in its place, whatever the clauses and the snapshot are.

Main results:

* `Clauses.mergedOver_mergedOver`, `Builder.merge_merge`: merging twice is merging once.
* `Builder.aliases_merge`: merging makes no alias known that was not.
* `Builder.get_merge`, `Builder.update_merge`, `Builder.delete_merge`: calls that merge send the
  same after a merge.
* `Database.compile_again`: compiling a second time has the same answer, and changes nothing.
-/

namespace SqlGateway

/-! ## Clauses -/

namespace Clauses

theorem mergedLists_mergedLists {α : Type} [BEq α] [LawfulBEq α] (upper lower : List α) :
    mergedLists (mergedLists upper lower) lower = mergedLists upper lower :=
  eraseDups_append_eraseDups lower upper

theorem mergedOver_mergedOver (upper lower : Clauses) :
    (upper.mergedOver lower).mergedOver lower = upper.mergedOver lower := by
  simp only [mergedOver, mergedLists_mergedLists, OrderedMap.overlay_overlay]

end Clauses

/-! ## Builders -/

namespace Builder

theorem snapshot_merge (b : Builder) : b.merge.snapshot = b.snapshot := by
  unfold merge
  split <;> rfl

/-- Where the clauses are merged ones, merging changes nothing. -/
theorem merge_eq_self {b c : Builder} (hlive : c.live = b.merge.live)
    (hsnapshot : c.snapshot = b.snapshot) : c.merge = c := by
  by_cases hempty : c.snapshot = .empty
  · -- nothing is merged, so duplicates stay as they are too
    rw [merge, if_pos hempty]
  · have hmerged : b.merge.live = b.live.mergedOver b.snapshot := by
      rw [merge, if_neg (hsnapshot ▸ hempty)]
    have hsame : c.live.mergedOver c.snapshot = c.live := by
      rw [hlive, hsnapshot, hmerged, Clauses.mergedOver_mergedOver]
    rw [merge, if_neg hempty, hsame]

theorem merge_merge (b : Builder) : b.merge.merge = b.merge :=
  merge_eq_self rfl b.snapshot_merge

/-- The aliases of both sets of clauses are known before they are merged. -/
theorem aliases_merge (b : Builder) : b.merge.aliases = b.aliases := by
  unfold merge
  split
  · rfl
  · exact Clauses.mergedLists_mergedLists b.live.aliases b.snapshot.aliases

variable (style : Style) (b : Builder)

/-- The text is that of merged clauses, and merged clauses are what is left. -/
theorem compile_compile : (b.compile style).2.compile style = b.compile style := by
  unfold compile selectText
  rw [merge_merge]

/-! ## Calls after a merge -/

/-- The builder with the window of a call. -/
def windowed (limit offset : Option Nat) : Builder :=
  { b with limit := limit <|> b.limit, offset := offset <|> b.offset }

theorem get_none_eq (limit offset : Option Nat) :
    b.get style none limit offset =
      ⟨(b.windowed limit offset).selectText style, (b.windowed limit offset).merge.afterRead⟩ :=
  rfl

/-- The window is no part of the clauses. -/
theorem merge_windowed (limit offset : Option Nat) :
    (b.windowed limit offset).merge = b.merge.windowed limit offset := by
  unfold merge windowed
  split <;> rfl

/-- A read sends the text that was compiled before it. -/
theorem get_merge (limit offset : Option Nat) :
    b.merge.get style none limit offset = b.get style none limit offset := by
  have hmerged : (b.merge.windowed limit offset).merge = (b.windowed limit offset).merge := by
    rw [merge_windowed, merge_windowed, merge_merge]
  rw [get_none_eq, get_none_eq]
  unfold selectText
  rw [hmerged]

theorem update_merge (table? condition? : Option String) (limit? : Option Nat) :
    b.merge.update style table? condition? limit? = b.update style table? condition? limit? := by
  unfold update
  rw [merge_merge]

theorem delete_merge (table? condition? : Option String) :
    b.merge.delete style table? condition? = b.delete style table? condition? := by
  unfold delete
  rw [merge_merge]

end Builder

/-! ## Databases -/

namespace Database

variable {C E : Type} [Connection C]

theorem run_compile (f : Style → Builder → String × Builder) (s : Session C) (b : Builder)
    (w : World E) :
    (compile f : Action (Database C) E String).run (⟨s, some b⟩, w) =
      (.ok (f ⟨s.dialect, s.rules⟩ b).1, ⟨s, some (f ⟨s.dialect, s.rules⟩ b).2⟩, w) :=
  rfl

/-- **Compiling a second time** has the same answer as before, a text or a refusal, and leaves the
database and the world as they are. For no builder does a second merge change what the first one has
left, in any of the lists or in the order or the values of the assignments; and so it is wherever
clauses are laid over a snapshot, be it empty. -/
theorem compile_again (d : Database C) (w : World E) :
    let compiled := (compile fun style b => b.compile style : Action (Database C) E String).run
    compiled (compiled (d, w)).2 = compiled (d, w) ∧
      ∀ b : Builder,
        (∀ style, (b.compile style).2.compile style = b.compile style) ∧
          b.merge.merge = b.merge ∧
          ∀ live : Clauses,
            (live.mergedOver b.snapshot).mergedOver b.snapshot = live.mergedOver b.snapshot := by
  intro compiled
  refine ⟨?_, fun b => ⟨fun style => b.compile_compile style, b.merge_merge, fun live =>
    live.mergedOver_mergedOver b.snapshot⟩⟩
  obtain ⟨s, b?⟩ := d
  cases b? with
  | none => rfl
  | some b =>
    -- the session is left alone, so the second text is written in the same style
    show compiled (compiled (⟨s, some b⟩, w)).2 = _
    rw [show compiled (⟨s, some b⟩, w) = _ from run_compile _ s b w]
    dsimp only
    rw [show compiled (⟨s, some (b.compile ⟨s.dialect, s.rules⟩).2⟩, w) = _ from
      run_compile _ s _ w, b.compile_compile]

end Database

end SqlGateway
