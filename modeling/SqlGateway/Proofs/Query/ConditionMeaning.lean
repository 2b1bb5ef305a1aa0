import Mathlib.Data.List.Chain
import Mathlib.Data.List.Nodup
import Mathlib.Data.List.TakeWhile
import SqlGateway.Proofs.OrderedMap
import SqlGateway.Proofs.Query.SharedConditions

/-!
# What conditions mean, and the snapshot

Conditions are written in a row, and AND binds tighter than OR. So a row of conditions is an OR of
groups, and each group is the AND of the conditions in it. A connector is fixed when its condition
is added, but the conditions of the snapshot are moved to the front, and a condition moves into
another group if it is cut off from the ones it was joined to.

When that changes the meaning is decided here for every placement of the switches. The invariant is
the value of the group that is open together with that of the groups before it
(`Fragment.evalFrom`); for the other direction, the groups of a row of different conditions can be
told from what the row means under all assignments (`exists_group_of_any_eq`).

Main definitions:

* `Fragment.holds`: what a row of conditions means under a truth assignment.
* `ConditionCall`: the calls that add conditions on values, and the switches of the snapshot.
* `ConditionCall.placed`: the conditions of some calls, and which of them the snapshot has.
* `Harmless`: the placements that keep every AND where it was.

Main results:

* `ConditionCall.selectText_after`: the conditions that a SELECT shows, and their order.
* `ConditionCall.switches_keep_meaning`: harmless placements keep the meaning, and for different
  conditions they are the only ones that do.
-/

namespace SqlGateway

/-! ## Meaning -/

namespace Fragment

/-- The condition begins a group, unless it is the first one, which always does. -/
def startsGroup (f : Fragment) : Bool :=
  f.connector = some .or

/-- The groups of a row, `group` being what has been read of the group that is open. -/
def groupsFrom (group : List String) : List Fragment → List (List String)
  | [] => [group]
  | f :: fs =>
    if f.startsGroup then group :: groupsFrom [f.text] fs else groupsFrom (group ++ [f.text]) fs

/-- The groups of a row of conditions. What the first one is joined by does not matter. -/
def groups : List Fragment → List (List String)
  | [] => []
  | f :: fs => groupsFrom [f.text] fs

/-- What a row of conditions means under a truth assignment: some group of it holds as a whole.
Without conditions nothing is asked. -/
def holds (v : String → Bool) (fs : List Fragment) : Bool :=
  fs.isEmpty || (groups fs).any fun group => group.all v

/-- The WHERE clause of a row of conditions. -/
def clause (fs : List Fragment) : String :=
  if fs = [] then "" else " WHERE " ++ Text.join " " (render fs)

/-- What a row means after a group that is open and has the value `open?`. -/
def evalFrom (v : String → Bool) (open? : Bool) : List Fragment → Bool
  | [] => open?
  | f :: fs =>
    if f.startsGroup then open? || evalFrom v (v f.text) fs else evalFrom v (open? && v f.text) fs

variable {v : String → Bool}

/-- Only the value of the open group counts. -/
theorem any_groupsFrom (group : List String) (fs : List Fragment) :
    ((groupsFrom group fs).any fun g => g.all v) = evalFrom v (group.all v) fs := by
  induction fs generalizing group with
  | nil => simp [groupsFrom, evalFrom]
  | cons f fs ih =>
    unfold groupsFrom evalFrom
    split
    · rw [List.any_cons, ih]
      simp
    · rw [ih]
      simp

theorem holds_cons (f : Fragment) (fs : List Fragment) :
    holds v (f :: fs) = evalFrom v (v f.text) fs := by
  unfold holds groups
  rw [any_groupsFrom]
  simp

/-- Conditions that begin no group belong to the open one. -/
theorem evalFrom_run {fs : List Fragment} (h : ∀ f ∈ fs, f.startsGroup = false) (b : Bool)
    (rest : List Fragment) :
    evalFrom v b (fs ++ rest) = evalFrom v (b && fs.all fun f => v f.text) rest := by
  induction fs generalizing b with
  | nil => simp
  | cons f fs ih =>
    obtain ⟨hf, hfs⟩ := List.forall_mem_cons.1 h
    rw [List.cons_append, evalFrom, hf, if_neg Bool.false_ne_true, ih hfs, List.all_cons,
      Bool.and_assoc]

/-- Conditions that all begin groups are alternatives. -/
theorem evalFrom_alternatives {fs : List Fragment} (h : ∀ f ∈ fs, f.startsGroup = true)
    (b : Bool) : evalFrom v b fs = (b || fs.any fun f => v f.text) := by
  induction fs generalizing b with
  | nil => simp [evalFrom]
  | cons f fs ih =>
    obtain ⟨hf, hfs⟩ := List.forall_mem_cons.1 h
    rw [evalFrom, hf, if_pos rfl, ih hfs, List.any_cons]

/-- The row begins with a group of its own. -/
def Separate (fs : List Fragment) : Prop :=
  ∀ f ∈ fs.head?, f.startsGroup = true

theorem evalFrom_separate {fs : List Fragment} (h : Separate fs) (b : Bool) :
    evalFrom v b fs = (b || evalFrom v false fs) := by
  cases fs with
  | nil => simp [evalFrom]
  | cons f fs =>
    have hf : f.startsGroup = true := h f rfl
    rw [evalFrom, evalFrom, hf, if_pos rfl, if_pos rfl, Bool.false_or]

theorem evalFrom_append {fs more : List Fragment} (h : Separate more) (b : Bool) :
    evalFrom v b (fs ++ more) = (evalFrom v b fs || evalFrom v false more) := by
  induction fs generalizing b with
  | nil => exact evalFrom_separate h b
  | cons f fs ih =>
    rw [List.cons_append, evalFrom, evalFrom]
    split
    · rw [ih, Bool.or_assoc]
    · exact ih _

/-- What comes first decides nothing but the value of the open group. -/
theorem evalFrom_append_congr {fs gs : List Fragment}
    (h : ∀ b, evalFrom v b fs = evalFrom v b gs) (es : List Fragment) (b : Bool) :
    evalFrom v b (es ++ fs) = evalFrom v b (es ++ gs) := by
  induction es generalizing b with
  | nil => exact h b
  | cons e es ih => rw [List.cons_append, List.cons_append, evalFrom, evalFrom, ih, ih]

/-- The conditions of a run may be in any order. -/
theorem holds_run_perm {run run' : List Fragment} (hperm : run'.Perm run)
    (hrun : ∀ f ∈ run, f.startsGroup = false) (before after : List Fragment) :
    holds v (before ++ (run' ++ after)) = holds v (before ++ (run ++ after)) := by
  have hrun' : ∀ f ∈ run', f.startsGroup = false := fun f hf => hrun f (hperm.mem_iff.1 hf)
  have heval (b : Bool) : evalFrom v b (run' ++ after) = evalFrom v b (run ++ after) := by
    rw [evalFrom_run hrun', evalFrom_run hrun, hperm.all_eq]
  cases before with
  | cons f before =>
    rw [List.cons_append, List.cons_append, holds_cons, holds_cons]
    exact evalFrom_append_congr heval before _
  | nil =>
    cases run with
    | nil => rw [List.perm_nil.1 hperm]
    | cons f run =>
      cases run' with
      | nil => exact absurd hperm (List.not_perm_nil_cons _ _)
      | cons f' run' =>
        -- the first condition begins no group, so it goes on with one that has always held
        have hopen (e : Fragment) (es : List Fragment) (he : e.startsGroup = false) :
            evalFrom v true (e :: es) = holds v (e :: es) := by
          rw [holds_cons, evalFrom, he, if_neg Bool.false_ne_true, Bool.true_and]
        rw [List.nil_append, List.nil_append, List.cons_append, List.cons_append,
          ← hopen _ _ (hrun f (List.mem_cons_self ..)),
          ← hopen _ _ (hrun' f' (List.mem_cons_self ..))]
        exact heval true

/-! ### What the meaning tells of the groups -/

theorem flatten_groupsFrom (group : List String) (fs : List Fragment) :
    (groupsFrom group fs).flatten = group ++ fs.map Fragment.text := by
  induction fs generalizing group with
  | nil => simp [groupsFrom]
  | cons f fs ih =>
    unfold groupsFrom
    split
    · rw [List.flatten_cons, ih]
      rfl
    · rw [ih, List.append_assoc]
      rfl

theorem flatten_groups (fs : List Fragment) : (groups fs).flatten = fs.map Fragment.text := by
  cases fs with
  | nil => rfl
  | cons f fs => exact flatten_groupsFrom [f.text] fs

theorem ne_nil_of_mem_groupsFrom {group : List String} (hgroup : group ≠ []) {fs : List Fragment}
    {g : List String} (h : g ∈ groupsFrom group fs) : g ≠ [] := by
  induction fs generalizing group with
  | nil =>
    rw [List.mem_singleton.1 h]
    exact hgroup
  | cons f fs ih =>
    unfold groupsFrom at h
    split at h
    · rcases List.mem_cons.1 h with rfl | h
      · exact hgroup
      · exact ih (List.cons_ne_nil _ _) h
    · exact ih (List.append_ne_nil_of_left_ne_nil hgroup _) h

theorem ne_nil_of_mem_groups {fs : List Fragment} {g : List String} (h : g ∈ groups fs) :
    g ≠ [] := by
  cases fs with
  | nil => cases h
  | cons f fs => exact ne_nil_of_mem_groupsFrom (List.cons_ne_nil _ _) h

/-- The open group is part of one of the groups. -/
theorem exists_subset_groupsFrom (group : List String) (fs : List Fragment) :
    ∃ g ∈ groupsFrom group fs, group ⊆ g := by
  induction fs generalizing group with
  | nil => exact ⟨group, List.mem_singleton.2 rfl, List.Subset.refl group⟩
  | cons f fs ih =>
    unfold groupsFrom
    split
    · exact ⟨group, List.mem_cons_self .., List.Subset.refl group⟩
    · obtain ⟨g, hg, hsub⟩ := ih (group ++ [f.text])
      exact ⟨g, hg, List.Subset.trans (List.subset_append_left _ _) hsub⟩

/-- A condition that begins no group is in the group of the one before it. -/
theorem exists_group_of_adjacent {f g : Fragment} (hg : g.startsGroup = false)
    (before after : List Fragment) :
    ∃ h ∈ groups (before ++ f :: g :: after), f.text ∈ h ∧ g.text ∈ h := by
  -- by induction on what stands before the two, whatever group is open there
  have hopen (group : List String) (fs : List Fragment) :
      ∃ h ∈ groupsFrom group (fs ++ f :: g :: after), f.text ∈ h ∧ g.text ∈ h := by
    induction fs generalizing group with
    | nil =>
      -- once the first one is in the open group, the second one joins it there
      have hlast (group : List String) (hmem : f.text ∈ group) :
          ∃ h ∈ groupsFrom group (g :: after), f.text ∈ h ∧ g.text ∈ h := by
        obtain ⟨h, hh, hsub⟩ := exists_subset_groupsFrom (group ++ [g.text]) after
        rw [groupsFrom, hg, if_neg Bool.false_ne_true]
        exact ⟨h, hh, hsub (List.mem_append_left _ hmem),
          hsub (List.mem_append_right _ (List.mem_singleton.2 rfl))⟩
      rw [List.nil_append, groupsFrom]
      split
      · obtain ⟨h, hh, hmem⟩ := hlast [f.text] (List.mem_singleton.2 rfl)
        exact ⟨h, List.mem_cons_of_mem _ hh, hmem⟩
      · exact hlast _ (List.mem_append_right _ (List.mem_singleton.2 rfl))
    | cons e fs ih =>
      rw [List.cons_append, groupsFrom]
      split
      · obtain ⟨h, hh, hmem⟩ := ih [e.text]
        exact ⟨h, List.mem_cons_of_mem _ hh, hmem⟩
      · exact ih _
  cases before with
  | nil =>
    obtain ⟨h, hh, hsub⟩ := exists_subset_groupsFrom ([f.text] ++ [g.text]) after
    refine ⟨h, ?_, hsub (List.mem_cons_self ..), hsub ?_⟩
    · rw [List.nil_append, groups, groupsFrom, hg, if_neg Bool.false_ne_true]
      exact hh
    · exact List.mem_cons_of_mem _ (List.mem_cons_self ..)
  | cons e before => exact hopen [e.text] before

/-- A condition that begins a group separates the groups before it from its own and later ones. -/
theorem groups_append {fs more : List Fragment} (h : Separate more) :
    groups (fs ++ more) = groups fs ++ groups more := by
  have hopen (group : List String) (fs : List Fragment) :
      groupsFrom group (fs ++ more) = groupsFrom group fs ++ groups more := by
    induction fs generalizing group with
    | nil =>
      cases more with
      | nil => simp [groupsFrom, groups]
      | cons f more =>
        have hf : f.startsGroup = true := h f rfl
        simp only [List.nil_append, groupsFrom, hf, ↓reduceIte]
        rfl
    | cons f fs ih =>
      rw [List.cons_append, groupsFrom, groupsFrom]
      split
      · rw [ih, List.cons_append]
      · exact ih _
  cases fs with
  | nil => rfl
  | cons f fs => exact hopen [f.text] fs

end Fragment

/-- Of different conditions the groups can be told from what they mean: they are the least sets of
conditions that make the row hold. -/
theorem exists_group_of_any_eq {gs hs : List (List String)} (hnodup : gs.flatten.Nodup)
    (hne : ∀ g ∈ gs, g ≠ [])
    (hsame : ∀ v : String → Bool, (gs.any fun g => g.all v) = hs.any fun h => h.all v)
    {g : List String} (hg : g ∈ gs) : ∃ h ∈ hs, ∀ x, x ∈ g ↔ x ∈ h := by
  -- the assignment that makes just the conditions of `g` true makes a whole `h` true
  have htrue : (hs.any fun h => h.all fun x => decide (x ∈ g)) = true := by
    rw [← hsame, List.any_eq_true]
    exact ⟨g, hg, List.all_eq_true.2 fun x hx => decide_eq_true hx⟩
  obtain ⟨h, hh, hsub⟩ := List.any_eq_true.1 htrue
  have hsub : ∀ x ∈ h, x ∈ g := fun x hx => of_decide_eq_true (List.all_eq_true.1 hsub x hx)
  -- and the one that makes just the conditions of `h` true makes a whole group true
  have htrue' : (gs.any fun g => g.all fun x => decide (x ∈ h)) = true := by
    rw [hsame, List.any_eq_true]
    exact ⟨h, hh, List.all_eq_true.2 fun x hx => decide_eq_true hx⟩
  obtain ⟨g', hg', hsub'⟩ := List.any_eq_true.1 htrue'
  have hsub' : ∀ x ∈ g', x ∈ h := fun x hx => of_decide_eq_true (List.all_eq_true.1 hsub' x hx)
  -- which can only be `g` again, as groups of different conditions have nothing in common
  have heq : g' = g := by
    by_contra hdiff
    obtain ⟨x, hx⟩ := List.exists_mem_of_ne_nil _ (hne g' hg')
    have hsymm : Std.Symm (List.Disjoint : List String → List String → Prop) :=
      ⟨fun _ _ h _ hy hx => h hx hy⟩
    have hdisjoint := (List.nodup_flatten.1 hnodup).2.forall hg' hg hdiff
    exact hdisjoint hx (hsub x (hsub' x hx))
  exact ⟨h, hh, fun x => ⟨fun hx => hsub' x (heq ▸ hx), hsub x⟩⟩

/-! ## Placements -/

/-- A condition, and whether the snapshot has it as well. -/
structure Placed where
  fragment : Fragment
  kept : Bool
  deriving DecidableEq

namespace Placed

/-- The conditions in the order of their calls. -/
def conditions (ps : List Placed) : List Fragment :=
  ps.map fragment

@[simp]
theorem conditions_nil : conditions [] = [] :=
  rfl

@[simp]
theorem conditions_cons (p : Placed) (ps : List Placed) :
    conditions (p :: ps) = p.fragment :: conditions ps :=
  rfl

@[simp]
theorem conditions_append (ps qs : List Placed) :
    conditions (ps ++ qs) = conditions ps ++ conditions qs :=
  List.map_append

/-- The conditions of the snapshot. -/
def keptConditions (ps : List Placed) : List Fragment :=
  conditions (ps.filter kept)

/-- The conditions that are live alone. -/
def otherConditions (ps : List Placed) : List Fragment :=
  conditions (ps.filter fun p => !p.kept)

/-- The conditions as a SELECT shows them: those of the snapshot first, and each once. An empty
snapshot changes nothing. -/
def shown (ps : List Placed) : List Fragment :=
  if keptConditions ps = [] then conditions ps
  else Clauses.mergedLists (conditions ps) (keptConditions ps)

/-- The second of two conditions in a row begins a group, or it goes where the first one goes. -/
def Together (p q : Placed) : Prop :=
  q.fragment.startsGroup = true ∨ q.kept = p.kept

theorem filter_kept_eq_nil {ps : List Placed} (h : ∀ p ∈ ps, p.kept = false) :
    ps.filter kept = [] :=
  List.filter_eq_nil_iff.2 fun p hp => by simp [h p hp]

theorem filter_unkept_eq_nil {ps : List Placed} (h : ∀ p ∈ ps, p.kept = true) :
    (ps.filter fun p => !p.kept) = [] :=
  List.filter_eq_nil_iff.2 fun p hp => by simp [h p hp]

variable {v : String → Bool}

/-- In a row that is not torn, the next condition that goes elsewhere begins a group. -/
theorem separate_filter {p : Placed} {ps : List Placed} (h : (p :: ps).IsChain Together) :
    Fragment.Separate (conditions (ps.filter fun q => q.kept != p.kept)) := by
  induction ps generalizing p with
  | nil => exact nofun
  | cons q ps ih =>
    obtain ⟨hpq, hrest⟩ := List.isChain_cons_cons.1 h
    by_cases hkept : q.kept = p.kept
    · rw [List.filter_cons_of_neg (by simp [hkept]), ← hkept]
      exact ih hrest
    · rw [List.filter_cons_of_pos (by simp [hkept])]
      intro f hf
      cases hf
      exact hpq.resolve_right hkept

/-- A row that is not torn has the groups of its two parts: those that go where the open group goes
and go on with it, and the others. -/
theorem evalFrom_conditions {p : Placed} {ps : List Placed} (h : (p :: ps).IsChain Together)
    (b : Bool) :
    Fragment.evalFrom v b (conditions ps) =
      (Fragment.evalFrom v b (conditions (ps.filter fun q => q.kept == p.kept)) ||
        Fragment.evalFrom v false (conditions (ps.filter fun q => q.kept != p.kept))) := by
  induction ps generalizing p b with
  | nil => simp [conditions, Fragment.evalFrom]
  | cons q ps ih =>
    obtain ⟨hpq, hrest⟩ := List.isChain_cons_cons.1 h
    by_cases hkept : q.kept = p.kept
    · -- the condition goes with the open group, which it joins or closes in both rows
      rw [List.filter_cons_of_pos (by simp [hkept]), List.filter_cons_of_neg (by simp [hkept])]
      have ih := fun b => ih hrest b
      rw [hkept] at ih
      rw [conditions_cons, conditions_cons, Fragment.evalFrom, Fragment.evalFrom]
      split
      · rw [ih, Bool.or_assoc]
      · exact ih _
    · -- the condition goes elsewhere, so it begins a group there
      have hstarts : q.fragment.startsGroup = true := hpq.resolve_right hkept
      have hother : p.kept = !q.kept := by
        revert hkept
        cases p.kept <;> cases q.kept <;> decide
      have hsame : (fun r : Placed => r.kept == p.kept) = fun r => r.kept != q.kept := by
        funext r
        rw [hother]
        cases r.kept <;> cases q.kept <;> rfl
      have hdiff : (fun r : Placed => r.kept != p.kept) = fun r => r.kept == q.kept := by
        funext r
        rw [hother]
        cases r.kept <;> cases q.kept <;> rfl
      rw [hsame, hdiff, List.filter_cons_of_neg (by simp), List.filter_cons_of_pos (by simp),
        Fragment.evalFrom_separate (separate_filter hrest)]
      rw [conditions_cons, conditions_cons, Fragment.evalFrom, Fragment.evalFrom, hstarts,
        if_pos rfl, if_pos rfl, ih hrest, Bool.false_or,
        Bool.or_comm (Fragment.evalFrom v (v q.fragment.text) _), Bool.or_assoc]

theorem mem_keptConditions {ps : List Placed} {f : Fragment} (h : f ∈ keptConditions ps) :
    f ∈ conditions ps := by
  obtain ⟨p, hp, rfl⟩ := List.mem_map.1 h
  exact List.mem_map_of_mem (List.mem_of_mem_filter hp)

theorem mem_shown {ps : List Placed} {f : Fragment} : f ∈ shown ps ↔ f ∈ conditions ps := by
  unfold shown
  split
  · exact Iff.rfl
  · rw [Clauses.mergedLists, List.mem_eraseDups, List.mem_append]
    exact ⟨fun h => h.elim mem_keptConditions id, .inr⟩

/-- The part of different conditions that the snapshot does not have. -/
theorem removeAll_keptConditions {ps : List Placed} (h : (conditions ps).Nodup) :
    (conditions ps).removeAll (keptConditions ps) = otherConditions ps := by
  unfold otherConditions List.removeAll
  rw [conditions, List.filter_map, conditions]
  refine congrArg (List.map fragment) (List.filter_congr fun p hp => ?_)
  -- equal conditions are the same one, so a condition tells whether the snapshot has it
  have hmem : p.fragment ∈ keptConditions ps ↔ p.kept = true := by
    constructor
    · intro hp'
      obtain ⟨q, hq, heq⟩ := List.mem_map.1 hp'
      obtain rfl : q = p := List.inj_on_of_nodup_map h (List.mem_of_mem_filter hq) hp heq
      exact (List.mem_filter.1 hq).2
    · exact fun hkept => List.mem_map_of_mem (List.mem_filter.2 ⟨hp, hkept⟩)
  cases hkept : p.kept with
  | false =>
    have hnot : p.fragment ∉ keptConditions ps := fun hp' => by simp [hmem.1 hp'] at hkept
    simp [hnot]
  | true => simp [hmem.2 hkept]

/-- An empty snapshot changes nothing. -/
theorem shown_of_unkept {ps : List Placed} (h : ∀ p ∈ ps, p.kept = false) :
    shown ps = conditions ps := by
  have hnone : keptConditions ps = [] := by
    rw [keptConditions, filter_kept_eq_nil h]
    rfl
  rw [shown, if_pos hnone]

/-- Different conditions are shown in two parts. -/
theorem shown_eq_append {ps : List Placed} (h : (conditions ps).Nodup) :
    shown ps = keptConditions ps ++ otherConditions ps := by
  have hkept : (keptConditions ps).Nodup := by
    refine List.Nodup.sublist ?_ h
    exact List.filter_sublist.map fragment
  have hother : (otherConditions ps).Nodup := by
    refine List.Nodup.sublist ?_ h
    exact List.filter_sublist.map fragment
  unfold shown
  split
  · next hnone =>
    rw [← removeAll_keptConditions h, hnone, List.nil_append]
    exact (List.filter_eq_self.2 fun f _ => rfl).symm
  · rw [Clauses.mergedLists, List.eraseDups_append, removeAll_keptConditions h,
      eraseDups_eq_self_of_nodup hkept, eraseDups_eq_self_of_nodup hother]

/-! ### Placements that keep the meaning -/

/-- The snapshot has the first condition. -/
def FirstKept (ps : List Placed) : Prop :=
  ∀ p ∈ ps.head?, p.kept = true

/-- The placement moves no condition into another group. -/
inductive Harmless (ps : List Placed) : Prop where
  /-- The snapshot has no condition. -/
  | unkept (h : ∀ p ∈ ps, p.kept = false)
  /-- There is one group. -/
  | oneGroup (h : ∀ p ∈ ps, p.fragment.startsGroup = false)
  /-- Every condition is a group. -/
  | alternatives (hfirst : FirstKept ps) (h : ∀ p ∈ ps.tail, p.fragment.startsGroup = true)
  /-- Every group is in the snapshot as a whole, or live alone. -/
  | untorn (hfirst : FirstKept ps) (hnodup : (conditions ps).Nodup) (h : ps.IsChain Together)
  /-- The conditions that come before and after a part of one group go to different sides. -/
  | oneTorn (hnodup : (conditions ps).Nodup) (before run after : List Placed)
      (h : ps = before ++ run ++ after) (hbefore : ∀ p ∈ before, p.kept = true)
      (hrun : ∀ p ∈ run, p.fragment.startsGroup = false) (hafter : ∀ p ∈ after, p.kept = false)

variable {ps : List Placed}

theorem holds_oneGroup {fs : List Fragment} (h : ∀ f ∈ fs, f.startsGroup = false) :
    Fragment.holds v fs = fs.all fun f => v f.text := by
  cases fs with
  | nil => rfl
  | cons f fs =>
    have hrun := Fragment.evalFrom_run (v := v) (List.forall_mem_cons.1 h).2 (v f.text) []
    rw [List.append_nil] at hrun
    rw [Fragment.holds_cons, List.all_cons, hrun, Fragment.evalFrom]

theorem all_shown (v : String → Bool) (ps : List Placed) :
    ((shown ps).all fun f => v f.text) = (conditions ps).all fun f => v f.text := by
  rw [Bool.eq_iff_iff, List.all_eq_true, List.all_eq_true]
  exact forall_congr' fun f => by rw [mem_shown]

theorem any_shown (v : String → Bool) (ps : List Placed) :
    ((shown ps).any fun f => v f.text) = (conditions ps).any fun f => v f.text := by
  rw [Bool.eq_iff_iff, List.any_eq_true, List.any_eq_true]
  exact exists_congr fun f => by rw [mem_shown]

/-- The first condition stays the first one if the snapshot has it, and it is shown once. -/
theorem shown_cons {p : Placed} (ps : List Placed) (hp : p.kept = true) :
    ∃ fs, shown (p :: ps) = p.fragment :: fs ∧ ∀ f ∈ fs, f ≠ p.fragment := by
  have hkept : keptConditions (p :: ps) = p.fragment :: keptConditions ps := by
    unfold keptConditions
    rw [List.filter_cons_of_pos hp]
    rfl
  unfold shown
  rw [hkept, if_neg (List.cons_ne_nil _ _), Clauses.mergedLists, List.cons_append,
    List.eraseDups_cons]
  refine ⟨_, rfl, fun f hf => ?_⟩
  rw [List.mem_eraseDups, List.mem_filter] at hf
  simpa using hf.2

/-- What the snapshot has and what is live alone, where only a run in between is mixed. -/
theorem sides_oneTorn {before after : List Placed} (hbefore : ∀ p ∈ before, p.kept = true)
    (run : List Placed) (hafter : ∀ p ∈ after, p.kept = false) :
    keptConditions (before ++ run ++ after) ++ otherConditions (before ++ run ++ after) =
      conditions before ++
        (conditions (run.filter kept ++ run.filter fun q => !q.kept) ++ conditions after) := by
  have hkeep : before.filter kept = before := List.filter_eq_self.2 hbefore
  have hdrop : after.filter (fun q => !q.kept) = after :=
    List.filter_eq_self.2 fun q hq => by simp [hafter q hq]
  unfold keptConditions otherConditions
  rw [List.filter_append, List.filter_append, List.filter_append, List.filter_append, hkeep,
    filter_unkept_eq_nil hbefore, filter_kept_eq_nil hafter, hdrop]
  simp only [conditions_append, List.append_assoc, List.append_nil, List.nil_append]

/-- **Harmless placements keep the meaning.** -/
theorem Harmless.holds_shown (h : Harmless ps) (v : String → Bool) :
    Fragment.holds v (shown ps) = Fragment.holds v (conditions ps) := by
  cases h with
  | unkept h => rw [shown_of_unkept h]
  | oneGroup h =>
    -- an AND depends neither on the order nor on how often a condition is shown
    have hconditions : ∀ f ∈ conditions ps, f.startsGroup = false := by
      intro f hf
      obtain ⟨p, hp, rfl⟩ := List.mem_map.1 hf
      exact h p hp
    rw [holds_oneGroup hconditions, holds_oneGroup fun f hf => hconditions f (mem_shown.1 hf),
      all_shown]
  | alternatives hfirst h =>
    cases ps with
    | nil => rfl
    | cons p ps =>
      -- nor does an OR, and the first condition begins no group wherever it is shown
      obtain ⟨fs, hshown, hne⟩ := shown_cons ps (hfirst p rfl)
      have hrest : ∀ f ∈ conditions ps, f.startsGroup = true := by
        intro f hf
        obtain ⟨q, hq, rfl⟩ := List.mem_map.1 hf
        exact h q hq
      have hfs : ∀ f ∈ fs, f.startsGroup = true := by
        intro f hf
        have hmem : f ∈ conditions (p :: ps) :=
          mem_shown.1 (hshown ▸ List.mem_cons_of_mem _ hf)
        exact hrest f ((List.mem_cons.1 hmem).resolve_left (hne f hf))
      have hany := any_shown v (p :: ps)
      rw [hshown] at hany ⊢
      rw [List.any_cons] at hany
      rw [Fragment.holds_cons, Fragment.evalFrom_alternatives hfs, hany]
      show _ = Fragment.holds v (p.fragment :: conditions ps)
      rw [Fragment.holds_cons, Fragment.evalFrom_alternatives hrest]
      rfl
  | untorn hfirst hnodup h =>
    rw [shown_eq_append hnodup]
    cases ps with
    | nil => rfl
    | cons p ps =>
      -- the snapshot goes on with the first group, and what is live alone begins a group
      have hp : p.kept = true := hfirst p rfl
      have hkept : keptConditions (p :: ps) = p.fragment ::
          conditions (ps.filter fun q => q.kept == p.kept) := by
        unfold keptConditions
        rw [List.filter_cons_of_pos hp, hp]
        simp [conditions]
      have hother : otherConditions (p :: ps) =
          conditions (ps.filter fun q => q.kept != p.kept) := by
        unfold otherConditions
        rw [List.filter_cons_of_neg (by simp [hp]), hp]
        simp [conditions]
      rw [hkept, hother, List.cons_append, Fragment.holds_cons,
        Fragment.evalFrom_append (separate_filter h), ← evalFrom_conditions h]
      exact (Fragment.holds_cons _ _).symm
  | oneTorn hnodup before run after h hbefore hrun hafter =>
    have hplain : conditions ps = conditions before ++ (conditions run ++ conditions after) := by
      rw [h, conditions_append, conditions_append, List.append_assoc]
    have hrun' : ∀ f ∈ conditions run, f.startsGroup = false := by
      intro f hf
      obtain ⟨q, hq, rfl⟩ := List.mem_map.1 hf
      exact hrun q hq
    -- the SELECT shows the run in another order
    have hperm : (conditions (run.filter kept ++ run.filter fun q => !q.kept)).Perm
        (conditions run) :=
      (List.filter_append_perm kept run).map fragment
    rw [shown_eq_append hnodup, hplain, h, sides_oneTorn hbefore run hafter]
    exact Fragment.holds_run_perm hperm hrun' _ _

/-! ### Placements that change it -/

theorem isChain_of_adjacent {R : Placed → Placed → Prop}
    (h : ∀ before p q after, ps = before ++ p :: q :: after → R p q) : ps.IsChain R := by
  induction ps with
  | nil => exact .nil
  | cons p ps ih =>
    cases ps with
    | nil => exact .singleton p
    | cons q ps =>
      refine List.isChain_cons_cons.2 ⟨h [] p q ps rfl, ih fun before p' q' after heq => ?_⟩
      exact h (p :: before) p' q' after (by rw [heq, List.cons_append])

/-- What a group of placed conditions has is one of them. -/
theorem exists_of_mem_group {g : List String} (hg : g ∈ Fragment.groups (conditions ps))
    {x : String} (hx : x ∈ g) : ∃ p ∈ ps, p.fragment.text = x := by
  have hmem : x ∈ (conditions ps).map Fragment.text := by
    rw [← Fragment.flatten_groups]
    exact List.mem_flatten.2 ⟨g, hg, hx⟩
  obtain ⟨f, hf, rfl⟩ := List.mem_map.1 hmem
  obtain ⟨p, hp, rfl⟩ := List.mem_map.1 hf
  exact ⟨p, hp, rfl⟩

section

variable (hnodup : (ps.map fun p => p.fragment.text).Nodup)
include hnodup

/-- Of different texts each one tells where its condition is. -/
theorem of_mem_group_filter {p : Placed} (hp : p ∈ ps) {q : Placed → Bool} {g : List String}
    (hg : g ∈ Fragment.groups (conditions (ps.filter q))) (hmem : p.fragment.text ∈ g) :
    q p = true := by
  obtain ⟨r, hr, heq⟩ := exists_of_mem_group hg hmem
  obtain rfl : r = p := List.inj_on_of_nodup_map hnodup (List.mem_of_mem_filter hr) hp heq
  exact (List.mem_filter.1 hr).2

theorem nodup_conditions : (conditions ps).Nodup := by
  have hmap : (ps.map fun p => p.fragment.text) = (conditions ps).map Fragment.text := by
    rw [conditions, List.map_map]
    rfl
  rw [hmap] at hnodup
  exact hnodup.of_map _

/-- If the meaning is kept, then the groups are. -/
theorem same_groups (hne : ps ≠ [])
    (hsame : ∀ v, Fragment.holds v (shown ps) = Fragment.holds v (conditions ps)) :
    (∀ g ∈ Fragment.groups (conditions ps), ∃ h ∈ Fragment.groups (shown ps),
      ∀ x, x ∈ g ↔ x ∈ h) ∧
    ∀ h ∈ Fragment.groups (shown ps), ∃ g ∈ Fragment.groups (conditions ps),
      ∀ x, x ∈ h ↔ x ∈ g := by
  have hshown := shown_eq_append (nodup_conditions hnodup)
  have hperm : (shown ps).Perm (conditions ps) := by
    rw [hshown]
    unfold keptConditions otherConditions conditions
    rw [← List.map_append]
    exact (List.filter_append_perm kept ps).map fragment
  have hplain : ((conditions ps).map Fragment.text).Nodup := by
    rw [conditions, List.map_map]
    exact hnodup
  have hmoved : ((shown ps).map Fragment.text).Nodup :=
    (hperm.map Fragment.text).nodup_iff.2 hplain
  have hsome : conditions ps ≠ [] := fun h => hne (List.map_eq_nil_iff.1 h)
  have hsome' : shown ps ≠ [] := fun h => hsome (List.nil_perm.1 (h ▸ hperm))
  -- a row without conditions always holds, but neither of these is one
  have hany (v : String → Bool) : ((Fragment.groups (conditions ps)).any fun g => g.all v) =
      (Fragment.groups (shown ps)).any fun g => g.all v := by
    have hv := hsame v
    unfold Fragment.holds at hv
    rw [List.isEmpty_eq_false_iff.2 hsome, List.isEmpty_eq_false_iff.2 hsome', Bool.false_or,
      Bool.false_or] at hv
    exact hv.symm
  constructor
  · intro g hg
    refine exists_group_of_any_eq ?_ (fun g hg => Fragment.ne_nil_of_mem_groups hg) hany hg
    rw [Fragment.flatten_groups]
    exact hplain
  · intro h hh
    refine exists_group_of_any_eq ?_ (fun g hg => Fragment.ne_nil_of_mem_groups hg)
      (fun v => (hany v).symm) hh
    rw [Fragment.flatten_groups]
    exact hmoved

/-- If what is live alone begins a group, then no group is kept that is on both sides. -/
theorem isChain_together (hseparate : Fragment.Separate (otherConditions ps))
    (hgroups : ∀ g ∈ Fragment.groups (conditions ps), ∃ h ∈ Fragment.groups (shown ps),
      ∀ x, x ∈ g ↔ x ∈ h) : ps.IsChain Together := by
  refine isChain_of_adjacent fun before p q after heq => ?_
  by_contra htorn
  obtain ⟨hstarts, hdiff⟩ := not_or.1 htorn
  have hp : p ∈ ps := by simp [heq]
  have hq : q ∈ ps := by simp [heq]
  -- two neighbours that an AND joins are in one group, so they are in one group of the SELECT
  have hrow : conditions ps =
      conditions before ++ p.fragment :: q.fragment :: conditions after := by
    rw [heq, conditions_append, conditions_cons, conditions_cons]
  obtain ⟨g, hg, hpg, hqg⟩ := Fragment.exists_group_of_adjacent
    (f := p.fragment) (Bool.eq_false_iff.2 hstarts) (conditions before) (conditions after)
  rw [← hrow] at hg
  obtain ⟨h, hh, hiff⟩ := hgroups g hg
  rw [shown_eq_append (nodup_conditions hnodup), Fragment.groups_append hseparate] at hh
  refine hdiff ?_
  -- and that is a group of the snapshot, or of what is live alone
  rcases List.mem_append.1 hh with hh | hh
  · have hp' : p.kept = true := of_mem_group_filter hnodup hp hh ((hiff _).1 hpg)
    have hq' : q.kept = true := of_mem_group_filter hnodup hq hh ((hiff _).1 hqg)
    rw [hp', hq']
  · have hp' : (!p.kept) = true := of_mem_group_filter hnodup hp hh ((hiff _).1 hpg)
    have hq' : (!q.kept) = true := of_mem_group_filter hnodup hq hh ((hiff _).1 hqg)
    exact Bool.not_inj (hq'.trans hp'.symm)

/-- If what is live alone goes on with a group, then the snapshot ends in that group. -/
theorem unkept_after_run {before run after : List Placed} {u : Placed}
    (hrow : ps = before ++ (u :: run) ++ after) (hbefore : ∀ p ∈ before, p.kept = true)
    (hu : u.kept = false) (hstarts : u.fragment.startsGroup = false)
    (hseparate : Fragment.Separate (conditions after))
    (hgroups : ∀ h ∈ Fragment.groups (shown ps), ∃ g ∈ Fragment.groups (conditions ps),
      ∀ x, x ∈ h ↔ x ∈ g) : ∀ p ∈ after, p.kept = false := by
  intro k hk
  by_contra hkept
  rw [Bool.not_eq_false] at hkept
  -- the last condition of the snapshot is next to `u` in the SELECT, so in one group with it
  obtain hnone | ⟨init, last, hfilter⟩ := List.eq_nil_or_concat (after.filter kept)
  · exact List.not_mem_nil (hnone ▸ List.mem_filter.2 ⟨hk, hkept⟩)
  rw [List.concat_eq_append] at hfilter
  have hlast : last ∈ after :=
    List.mem_of_mem_filter (hfilter ▸ List.mem_append_right _ (List.mem_singleton.2 rfl))
  have hshown : shown ps = conditions ((before ++ (u :: run)).filter kept ++ init) ++
      last.fragment :: u.fragment :: otherConditions (run ++ after) := by
    rw [shown_eq_append (nodup_conditions hnodup)]
    unfold keptConditions otherConditions
    rw [hrow, List.filter_append, hfilter]
    simp [filter_unkept_eq_nil hbefore, hu]
  obtain ⟨h, hh, hlasth, huh⟩ := Fragment.exists_group_of_adjacent (f := last.fragment) hstarts
    (conditions ((before ++ (u :: run)).filter kept ++ init)) (otherConditions (run ++ after))
  rw [← hshown] at hh
  obtain ⟨g, hg, hiff⟩ := hgroups h hh
  -- but a group begins between them in the order of the calls
  have happend : conditions ps = conditions (before ++ (u :: run)) ++ conditions after := by
    rw [hrow, conditions_append]
  rw [happend, Fragment.groups_append hseparate] at hg
  have hdisjoint : ∀ p ∈ before ++ (u :: run), ∀ q ∈ after,
      p.fragment.text ≠ q.fragment.text := by
    intro p hp q hq
    rw [hrow, List.map_append, List.nodup_append] at hnodup
    exact hnodup.2.2 _ (List.mem_map_of_mem hp) _ (List.mem_map_of_mem hq)
  rcases List.mem_append.1 hg with hg | hg
  · obtain ⟨p, hp, heq⟩ := exists_of_mem_group hg ((hiff _).1 hlasth)
    exact hdisjoint p hp last hlast heq
  · obtain ⟨q, hq, heq⟩ := exists_of_mem_group hg ((hiff _).1 huh)
    exact hdisjoint u (by simp) q hq heq.symm

/-- **Other placements change the meaning**, if the conditions are different ones. -/
theorem Harmless.of_holds_shown (hhead : ∀ p ∈ ps.head?, p.fragment.startsGroup = false)
    (hsame : ∀ v, Fragment.holds v (shown ps) = Fragment.holds v (conditions ps)) :
    Harmless ps := by
  have hconditions := nodup_conditions hnodup
  -- the row is split at the first condition that is live alone
  have hsplit : ps.takeWhile kept ++ ps.dropWhile kept = ps := List.takeWhile_append_dropWhile
  have hbefore : ∀ p ∈ ps.takeWhile kept, p.kept = true := fun p hp => List.mem_takeWhile_imp hp
  have hunkept := List.head?_dropWhile_not kept ps
  generalize ps.takeWhile kept = before at hsplit hbefore
  generalize ps.dropWhile kept = more at hsplit hunkept
  cases more with
  | nil =>
    -- the snapshot has everything
    rw [List.append_nil] at hsplit
    subst hsplit
    refine .untorn (fun p hp => hbefore p (List.mem_of_mem_head? hp)) hconditions ?_
    refine isChain_of_adjacent fun _ p q _ heq => .inr ?_
    rw [hbefore p (by simp [heq]), hbefore q (by simp [heq])]
  | cons u rest =>
    have hu : u.kept = false := hunkept
    have hne : ps ≠ [] := by
      rw [← hsplit]
      exact List.append_ne_nil_of_right_ne_nil _ (List.cons_ne_nil _ _)
    obtain ⟨hgroups, hgroups'⟩ := same_groups hnodup hne hsame
    cases hstarts : u.fragment.startsGroup with
    | true =>
      -- what is live alone begins a group, so each side has its groups for itself
      have hfirst : FirstKept ps := by
        rw [← hsplit] at hhead ⊢
        cases before with
        | nil => exact absurd ((hhead u rfl).symm.trans hstarts) Bool.false_ne_true
        | cons p before =>
          intro q hq
          cases hq
          exact hbefore p (List.mem_cons_self ..)
      refine .untorn hfirst hconditions (isChain_together hnodup ?_ hgroups)
      unfold otherConditions
      rw [← hsplit, List.filter_append, filter_unkept_eq_nil hbefore,
        List.filter_cons_of_pos (by simp [hu])]
      intro f hf
      cases hf
      exact hstarts
    | false =>
      -- what is live alone goes on with the last group of the snapshot
      have hrest : rest.takeWhile (fun p => !p.fragment.startsGroup) ++
          rest.dropWhile (fun p => !p.fragment.startsGroup) = rest :=
        List.takeWhile_append_dropWhile
      have hrun : ∀ p ∈ u :: rest.takeWhile (fun p => !p.fragment.startsGroup),
          p.fragment.startsGroup = false := by
        refine List.forall_mem_cons.2 ⟨hstarts, fun p hp => ?_⟩
        have hp' := List.mem_takeWhile_imp hp
        rw [Bool.not_eq_true'] at hp'
        exact hp'
      have hseparate : Fragment.Separate
          (conditions (rest.dropWhile fun p => !p.fragment.startsGroup)) := by
        have hnext := List.head?_dropWhile_not (fun p : Placed => !p.fragment.startsGroup) rest
        intro f hf
        unfold conditions at hf
        rw [List.head?_map] at hf
        obtain ⟨q, hq, rfl⟩ := Option.map_eq_some_iff.1 hf
        rw [hq] at hnext
        simpa using hnext
      have hrow : ps = before ++ (u :: rest.takeWhile fun p => !p.fragment.startsGroup) ++
          rest.dropWhile fun p => !p.fragment.startsGroup := by
        rw [List.append_assoc, List.cons_append, hrest, hsplit]
      exact .oneTorn hconditions _ _ _ hrow hbefore hrun
        (unkept_after_run hnodup hrow hbefore hu hstarts hseparate hgroups')

end

end Placed

/-! ## Calls -/

/-- A call that adds a condition on values, or a switch of the snapshot. -/
inductive ConditionCall where
  | value (connector : Connector) (key : String) (value : Value)
  | raw (connector : Connector) (text : String)
  | startCache
  | stopCache

namespace ConditionCall

variable (style : Style)

def apply (b : Builder) : ConditionCall → Builder
  | value connector key x => b.whereValue style connector key x
  | raw connector text => b.whereRaw connector text
  | startCache => b.startCache
  | stopCache => b.stopCache

/-- The connector and the text of the condition that the call adds. -/
def condition? : ConditionCall → Option (Connector × String)
  | value connector key x => some (connector, Builder.empty.condition style key x)
  | raw connector text => some (connector, Text.trim text)
  | startCache | stopCache => none

/-- Whether the builder is caching after the call. -/
def cachingAfter (caching : Bool) : ConditionCall → Bool
  | startCache => true
  | stopCache => false
  | value .. | raw .. => caching

/-- The call is no switch. -/
def isCondition : ConditionCall → Bool
  | value .. | raw .. => true
  | startCache | stopCache => false

/-- The conditions that calls add after others. `first` says that those have added none. -/
def placedFrom (first caching : Bool) : List ConditionCall → List Placed
  | [] => []
  | call :: calls =>
    match call.condition? style with
    | some (connector, text) =>
      ⟨⟨if first then none else some connector, text⟩, caching⟩ ::
        placedFrom false (call.cachingAfter caching) calls
    | none => placedFrom first (call.cachingAfter caching) calls

/-- The conditions that calls add, beginning without any. -/
def placed (calls : List ConditionCall) : List Placed :=
  placedFrom style true false calls

/-- The builder after the calls. -/
def run (calls : List ConditionCall) : Builder :=
  calls.foldl (apply style) .empty

end ConditionCall

/-- The builder that has these conditions and nothing else. -/
def Builder.holding (ps : List Placed) (caching : Bool) : Builder :=
  { Builder.empty with
    live := { Clauses.empty with wheres := Placed.conditions ps }
    snapshot := { Clauses.empty with wheres := Placed.keptConditions ps }
    caching }

namespace ConditionCall

open Builder (holding)

variable {style : Style}

theorem addWhere_holding (ps : List Placed) (caching : Bool) (connector : Connector)
    (text : String) : (holding ps caching).addWhere connector text =
      holding (ps ++ [⟨⟨if ps.isEmpty then none else some connector, text⟩, caching⟩]) caching := by
  -- the snapshot has nothing that is not live, so the live conditions tell which one is the first
  have hfirst : ((Placed.conditions ps).isEmpty && (Placed.keptConditions ps).isEmpty) =
      ps.isEmpty := by
    cases ps <;> simp [Placed.conditions, Placed.keptConditions]
  unfold Builder.addWhere Builder.fragment Builder.add holding
  dsimp only
  rw [hfirst]
  cases caching <;> simp [Placed.conditions, Placed.keptConditions]

/-- Without tables there are no aliases, so the conditions do not depend on each other. -/
theorem condition_holding (ps : List Placed) (caching : Bool) (key : String) (value : Value) :
    (holding ps caching).condition style key value = Builder.empty.condition style key value :=
  rfl

/-- A step adds its condition at the end, if it has one. -/
theorem apply_holding (style : Style) (ps : List Placed) (caching : Bool) (call : ConditionCall)
    (calls : List ConditionCall) : ∃ qs, call.apply style (holding ps caching) =
        holding (ps ++ qs) (call.cachingAfter caching) ∧
      placedFrom style ps.isEmpty caching (call :: calls) =
        qs ++ placedFrom style (ps ++ qs).isEmpty (call.cachingAfter caching) calls := by
  have hsome (p : Placed) : (ps ++ [p]).isEmpty = false := by simp
  cases call with
  | value connector key x =>
    refine ⟨_, addWhere_holding ps caching connector _, ?_⟩
    rw [hsome, condition_holding]
    rfl
  | raw connector text =>
    refine ⟨_, addWhere_holding ps caching connector _, ?_⟩
    rw [hsome]
    rfl
  | startCache => exact ⟨[], by rw [List.append_nil]; rfl, by rw [List.append_nil]; rfl⟩
  | stopCache => exact ⟨[], by rw [List.append_nil]; rfl, by rw [List.append_nil]; rfl⟩

/-- A run adds the conditions of its calls in their order. -/
theorem exists_run_eq_holding (style : Style) (calls : List ConditionCall) :
    ∃ caching, run style calls = holding (placed style calls) caching := by
  -- by induction on the calls, beginning with any conditions
  have hfrom (ps : List Placed) (caching : Bool) (calls : List ConditionCall) :
      ∃ caching', calls.foldl (apply style) (holding ps caching) =
        holding (ps ++ placedFrom style ps.isEmpty caching calls) caching' := by
    induction calls generalizing ps caching with
    | nil => exact ⟨caching, by rw [placedFrom, List.append_nil, List.foldl_nil]⟩
    | cons call calls ih =>
      obtain ⟨qs, happly, hplaced⟩ := apply_holding style ps caching call calls
      obtain ⟨caching', hrun⟩ := ih (ps ++ qs) (call.cachingAfter caching)
      refine ⟨caching', ?_⟩
      rw [List.foldl_cons, happly, hrun, hplaced, List.append_assoc]
  exact hfrom [] false calls

/-- Without the switches the snapshot gets no condition. -/
theorem placed_filter (calls : List ConditionCall) :
    placed style (calls.filter isCondition) =
      (placed style calls).map fun p => { p with kept := false } := by
  have hfrom (first caching : Bool) (calls : List ConditionCall) :
      placedFrom style first false (calls.filter isCondition) =
        (placedFrom style first caching calls).map fun p => { p with kept := false } := by
    induction calls generalizing first caching with
    | nil => rfl
    | cons call calls ih =>
      cases call <;>
        simp [List.filter_cons, isCondition, placedFrom, condition?, cachingAfter, ← ih]
  exact hfrom true false calls

theorem merge_holding (ps : List Placed) (caching : Bool) :
    (holding ps caching).merge.live = { Clauses.empty with wheres := Placed.shown ps } := by
  by_cases hnone : Placed.keptConditions ps = []
  · have hempty : (holding ps caching).snapshot = .empty := by
      unfold holding
      rw [hnone]
      rfl
    rw [Builder.merge, if_pos hempty, Placed.shown, if_pos hnone]
    rfl
  · have hsome : (holding ps caching).snapshot ≠ .empty :=
      fun heq => hnone (congrArg Clauses.wheres heq)
    rw [Builder.merge, if_neg hsome, Placed.shown, if_neg hnone]
    rfl

/-- A SELECT shows the conditions as they are placed. -/
theorem selectText_holding (ps : List Placed) (caching : Bool) :
    (holding ps caching).selectText style = "SELECT *" ++ Fragment.clause (Placed.shown ps) := by
  have hclause : (holding ps caching).merge.live.whereClause =
      Fragment.clause (Placed.shown ps) := by
    rw [merge_holding]
    unfold Clauses.whereClause Fragment.clause Clauses.conditionTexts Clauses.conditionText
    simp [Clauses.empty, Fragment.texts]
  have hframe : (holding ps caching).merge.selectFrame style = ⟨"SELECT *", ""⟩ := by
    unfold Builder.selectFrame Builder.selectHead
    rw [merge_holding]
    have hplain : (holding ps caching).merge.distinct = false ∧
        (holding ps caching).merge.limit = none := by
      unfold Builder.merge
      split <;> exact ⟨rfl, rfl⟩
    rw [hplain.1, hplain.2]
    rfl
  rw [Builder.selectText_eq_around, hclause, hframe]
  exact String.append_empty

/-- **The conditions of a SELECT**, with the switches and without them. -/
theorem selectText_after (style : Style) (calls : List ConditionCall) :
    (run style calls).selectText style =
        "SELECT *" ++ Fragment.clause (Placed.shown (placed style calls)) ∧
      (run style (calls.filter isCondition)).selectText style =
        "SELECT *" ++ Fragment.clause (Placed.conditions (placed style calls)) := by
  obtain ⟨caching, hrun⟩ := exists_run_eq_holding style calls
  obtain ⟨caching', hrun'⟩ := exists_run_eq_holding style (calls.filter isCondition)
  have hunkept : Placed.shown (placed style (calls.filter isCondition)) =
      Placed.conditions (placed style calls) := by
    rw [placed_filter, Placed.shown_of_unkept]
    · simp [Placed.conditions]
    · intro p hp
      obtain ⟨q, hq, rfl⟩ := List.mem_map.1 hp
      rfl
  rw [hrun, hrun', selectText_holding, selectText_holding, hunkept]
  exact ⟨rfl, rfl⟩

/-- The first condition has no connector. -/
theorem startsGroup_head?_placed (calls : List ConditionCall) :
    ∀ p ∈ (placed style calls).head?, p.fragment.startsGroup = false := by
  have hfrom (caching : Bool) (calls : List ConditionCall) :
      ∀ p ∈ (placedFrom style true caching calls).head?, p.fragment.startsGroup = false := by
    induction calls generalizing caching with
    | nil => exact nofun
    | cons call calls ih =>
      unfold placedFrom
      split
      · intro p hp
        cases hp
        rfl
      · exact ih _
  exact hfrom false calls

/-- **The switches change where conditions are shown, and seldom what they mean.** A SELECT shows
the conditions of the snapshot first, and each condition once. The harmless placements keep the
meaning under every truth assignment; for different conditions the others change it. -/
theorem switches_keep_meaning (style : Style) (calls : List ConditionCall) :
    (run style calls).selectText style =
        "SELECT *" ++ Fragment.clause (Placed.shown (placed style calls)) ∧
      (run style (calls.filter isCondition)).selectText style =
        "SELECT *" ++ Fragment.clause (Placed.conditions (placed style calls)) ∧
      (Placed.Harmless (placed style calls) → ∀ v,
        Fragment.holds v (Placed.shown (placed style calls)) =
          Fragment.holds v (Placed.conditions (placed style calls))) ∧
      (((placed style calls).map fun p => p.fragment.text).Nodup →
        (∀ v, Fragment.holds v (Placed.shown (placed style calls)) =
          Fragment.holds v (Placed.conditions (placed style calls))) →
        Placed.Harmless (placed style calls)) := by
  obtain ⟨hwith, hwithout⟩ := selectText_after style calls
  refine ⟨hwith, hwithout, Placed.Harmless.holds_shown, fun hnodup hsame => ?_⟩
  exact Placed.Harmless.of_holds_shown hnodup (startsGroup_head?_placed calls) hsame

/-- A placement that tears one group. -/
def oneGroupTorn : List ConditionCall :=
  [.startCache, .raw .and "a", .stopCache, .raw .and "b", .startCache, .raw .and "c", .stopCache,
    .raw .or "d"]

/-- The group is shown in another order, and means the same. -/
theorem switches_keep_meaning_oneGroupTorn :
    (run Builder.sqliteStyle oneGroupTorn).selectText Builder.sqliteStyle =
        "SELECT * WHERE a AND c AND b OR d" ∧
      (run Builder.sqliteStyle (oneGroupTorn.filter isCondition)).selectText Builder.sqliteStyle =
        "SELECT * WHERE a AND b AND c OR d" ∧
      Placed.Harmless (placed Builder.sqliteStyle oneGroupTorn) ∧
      ∀ v, Fragment.holds v (Placed.shown (placed Builder.sqliteStyle oneGroupTorn)) =
        Fragment.holds v (Placed.conditions (placed Builder.sqliteStyle oneGroupTorn)) := by
  obtain ⟨hwith, hwithout, hkeep, -⟩ := switches_keep_meaning Builder.sqliteStyle oneGroupTorn
  have hplaced : placed Builder.sqliteStyle oneGroupTorn =
      [⟨⟨none, "a"⟩, true⟩] ++ [⟨⟨some .and, "b"⟩, false⟩, ⟨⟨some .and, "c"⟩, true⟩] ++
        [⟨⟨some .or, "d"⟩, false⟩] := by
    decide +kernel
  have hharmless : Placed.Harmless (placed Builder.sqliteStyle oneGroupTorn) :=
    .oneTorn (by decide +kernel) _ _ _ hplaced (by decide) (by decide) (by decide)
  refine ⟨hwith.trans ?_, hwithout.trans ?_, hharmless, hkeep hharmless⟩ <;> decide +kernel

/-- A placement that tears an alternative, so that a condition moves to the one before it. -/
def alternativeTorn : List ConditionCall :=
  [.startCache, .raw .and "a", .stopCache, .raw .or "b", .startCache, .raw .and "c"]

/-- The SELECT no longer holds where just `a` is true. -/
theorem switches_keep_meaning_alternativeTorn :
    let style := Builder.sqliteStyle
    let moved : List Fragment := [⟨none, "a"⟩, ⟨some .and, "c"⟩, ⟨some .or, "b"⟩]
    let plain : List Fragment := [⟨none, "a"⟩, ⟨some .or, "b"⟩, ⟨some .and, "c"⟩]
    let v := fun text => decide (text = "a")
    (run style alternativeTorn).selectText style = "SELECT *" ++ Fragment.clause moved ∧
      Fragment.clause moved = " WHERE a AND c OR b" ∧ Fragment.holds v moved = false ∧
      (run style (alternativeTorn.filter isCondition)).selectText style =
        "SELECT *" ++ Fragment.clause plain ∧
      Fragment.clause plain = " WHERE a OR b AND c" ∧ Fragment.holds v plain = true := by
  intro style moved plain v
  obtain ⟨hwith, hwithout⟩ := selectText_after style alternativeTorn
  have hmoved : Placed.shown (placed style alternativeTorn) = moved := by decide +kernel
  have hplain : Placed.conditions (placed style alternativeTorn) = plain := by decide +kernel
  rw [hmoved] at hwith
  rw [hplain] at hwithout
  refine ⟨hwith, ?_, ?_, hwithout, ?_, ?_⟩ <;> decide +kernel

end ConditionCall

end SqlGateway
