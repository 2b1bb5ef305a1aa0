import Mathlib.Data.List.TakeWhile
import SqlGateway.Proofs.Session.Remembering
import SqlGateway.Proofs.Session.Sending
import SqlGateway.Proofs.Sql.Swapping

/-!
# Kept results are those of reads

A statement that looks like a read may be answered by a kept result, and is not sent then. It looks
like one if it has the word SELECT anywhere, so a write of a text may look like one too. But nothing
is kept of writes: whatever is done with a session that keeps its results in memory, it has none of
a write, and sends all that it is given.

Main definitions:

* `Session.Asked`, `Session.AllAsked`: statements that no kept result answers.
* `Session.KeepsReads`: results are kept in memory, and none of a write.
* `Session.sparing`, `Session.unkept`: the laws of not touching kept results, and of keeping none.

Main results:

* `Session.keepsReads_after`: what is kept after a run is of reads.
* `Session.allAsked_of_unkept`, `Session.allAsked_of_writes`, `Session.allAsked_of_kept`: writes are
  not answered by what is kept of reads, and nothing is where nothing is kept.
-/

namespace SqlGateway

variable {C E α : Type}

/-- A statement that begins with a keyword of a write is one, whatever follows. -/
theorem Statement.isWrite_of_keyword (keyword : String) {sql : String}
    (hkeyword : keyword ∈ writeKeywords)
    (hsql : ∃ rest, sql.toList = keyword.toList ++ ' ' :: rest) : isWrite sql = true := by
  obtain ⟨rest, hsql⟩ := hsql
  unfold isWrite
  rw [hsql]
  simp only [writeKeywords, List.mem_cons, List.not_mem_nil, or_false] at hkeyword
  rcases hkeyword with rfl | rfl | rfl | rfl | rfl | rfl | rfl | rfl | rfl | rfl | rfl | rfl | rfl
  all_goals rfl

/-- A write has a keyword, so it is not blank. -/
theorem Statement.isBlank_of_isWrite {sql : String} (h : isWrite sql = true) :
    Text.isBlank sql = false := by
  refine Bool.eq_false_iff.2 fun hblank => ?_
  have hnil : sql.toList.dropWhile Chars.isBlank = [] :=
    List.dropWhile_eq_nil_iff.2 (List.all_eq_true.1 hblank)
  unfold isWrite isWriteText at h
  rw [hnil] at h
  exact absurd h (by decide)

namespace Session

/-! ## What is kept -/

/-- Results are kept in memory, and none of them is that of a write. -/
def KeepsReads (s : Session C) : Prop :=
  ∃ entries, s.memory? = some entries ∧
    ∀ sql, Statement.isWrite sql = true → entries.get? sql = none

theorem KeepsReads.of_memory? {s t : Session C} (h : s.KeepsReads)
    (hmemory : t.memory? = s.memory?) : t.KeepsReads := by
  obtain ⟨entries, hentries, hnone⟩ := h
  exact ⟨entries, hmemory.trans hentries, hnone⟩

/-- The settings stay, and nothing is kept of writes if nothing was. -/
def keepingReads (C : Type) : Law (Session C) where
  rel s t := t.config = s.config ∧ (s.KeepsReads → t.KeepsReads)
  refl _ := ⟨rfl, id⟩
  trans hst htu := ⟨htu.1.trans hst.1, htu.2 ∘ hst.2⟩

/-- What is kept of an accepted statement is a read. -/
theorem governs_settle_keepingReads {sql : String} {handle? : Option Handle} :
    (keepingReads C).Governs (settle sql handle? : Effect (Session C) E QueryOutcome) := by
  intro ⟨s, w⟩
  have hupkeep : (upkeep .unchanged).rel s
      ((settle sql handle? : Effect (Session C) E QueryOutcome) (s, w)).2.1 :=
    governs_settle (s, w)
  refine ⟨hupkeep.1, fun ⟨entries, hentries, hnone⟩ => ?_⟩
  obtain ⟨-, hkept⟩ := settle_kept sql handle? w hentries
  refine ⟨_, hkept, fun text hwrite => Option.eq_none_iff_forall_ne_some.2 fun snapshot h => ?_⟩
  -- what is kept was kept before, or the statement was just told of, which writes are not
  rcases Notice.replay_cases h with ⟨hbefore, -⟩ | ⟨earlier, later, htold, -⟩
  · rw [hnone text hwrite] at hbefore
    cases hbefore
  · have hread := isWrite_of_mem_told (htold ▸ List.mem_append_right _ (List.mem_cons_self ..))
    rw [hwrite] at hread
    cases hread

/-! ## What is not touched -/

/-- Kept results are not touched, whatever becomes of the connection. -/
def sparing (C : Type) : Law (Session C) :=
  aside (.preserving fun _ => True)

theorem sparing_of_sameResults {s t : Session C} (h : SameResults s t) : (sparing C).rel s t :=
  ⟨h, id⟩

theorem keepingReads_of_sparing {s t : Session C} (h : (sparing C).rel s t) :
    (keepingReads C).rel s t :=
  ⟨h.1.config, fun hkeeps => hkeeps.of_memory? h.1.memory?⟩

theorem governs_onConn_sparing {a : Action C E α} : (sparing C).Governs (onConn a).run :=
  governs_onConn_aside fun _ => id

variable [Connection C] [Backend C E]

theorem tended_sparing : Tended E (sparing C) where
  connect _ := governs_onConn_sparing
  reconnect := governs_onConn_sparing
  selectDatabase _ := governs_onConn_sparing
  setCharset _ _ := governs_onConn_sparing
  close _ := sparing_of_sameResults ⟨rfl, rfl, rfl⟩

theorem governs_send_sparing {sql : String} :
    (sparing C).Governs (send sql : Action (Session C) E _).run := by
  have hnotes (s : Session C) (queries : List String) (executed : Nat) :
      (sparing C).rel s { s with queries, executed } :=
    sparing_of_sameResults ⟨rfl, rfl, rfl⟩
  have hstep (s : Session C) (transaction : Transaction) :
      (sparing C).rel s { s with transaction } :=
    sparing_of_sameResults ⟨rfl, rfl, rfl⟩
  have hgroup : (sparing C).Governs (completeGroup : Action (Session C) E _).run :=
    governs_completeGroup hstep governs_onConn_sparing governs_onConn_sparing
  exact governs_send (governs_connect tended_sparing) hnotes
    (governs_dispatch hnotes governs_onConn_sparing (fun s => hstep s _) hgroup)

/-! ## Operations -/

/-- A query leaves sessions that keep no result of a write as such. -/
theorem governs_query_keepingReads {sql : String} {binds : List Value} :
    (keepingReads C).Governs (query sql binds : Action (Session C) E _).run := by
  refine governs_query_of_parts (fun sql => ?_) fun sql => ?_
  · intro ⟨s, w⟩
    have hupkeep : (upkeep .unchanged).rel s ((kept? sql : Effect (Session C) E _) (s, w)).2.1 :=
      governs_onStore (s, w)
    refine ⟨hupkeep.1, fun ⟨entries, hentries, hnone⟩ => ⟨entries, ?_, hnone⟩⟩
    rw [run_kept? w hentries]
    rfl
  · exact .run_bind (governs_send_sparing.mono fun _ _ => keepingReads_of_sparing) fun _ =>
      .run_act governs_settle_keepingReads

/-- A law that allows for whatever does not touch kept results governs an operation if queries, the
forgetting of results and the operation's own edit obey it. -/
theorem governs_perform_of_sparing {L : Law (Session C)} {op : Operation}
    (hspared : ∀ s t, (sparing C).rel s t → L.rel s t)
    (hquery : ∀ sql binds, L.Governs (query sql binds : Action (Session C) E _).run)
    (hforget : L.Governs (forgetResults : Effect (Session C) E Bool))
    (hedit : ∀ f, op.edit? = some f → ∀ s, L.rel s (f s)) :
    L.Governs (perform op : Action (Session C) E Answer).run := by
  have hconnect : (sparing C).Governs (connect : Action (Session C) E Unit).run :=
    governs_connect tended_sparing
  have hserved : Served E L.contract :=
    { query := fun sql binds => Contract.meets_contract_iff.2 (hquery sql binds)
      names := fun _ _ => hspared _ _ (sparing_of_sameResults ⟨rfl, rfl, rfl⟩)
      connect := Contract.meets_contract_iff.2 (hconnect.mono hspared)
      reconnect := Contract.meets_contract_iff.2
        ((governs_reconnect hconnect governs_onConn_sparing).mono hspared)
      runDirect := fun _ => Contract.meets_contract_iff.2
        ((governs_runDirect hconnect governs_onConn_sparing).mono hspared)
      store := hforget }
  -- transaction calls leave the store alone; so does closing, and the rest is served as above
  by_cases htransactional : op.isTransactional = true
  · have hstart : (sparing C).Governs (startPhysical : Action (Session C) E Unit).run :=
      governs_unless_connect_bind hconnect (governs_call governs_onConn_sparing)
    exact (governs_transactional htransactional
      (fun _ _ => sparing_of_sameResults ⟨rfl, rfl, rfl⟩) hstart governs_onConn_sparing
      governs_onConn_sparing).mono hspared
  · exact Contract.meets_contract_iff.1 (meets_perform hserved
      (Bool.eq_false_iff.2 htransactional)
      (fun _ => (governs_close tended_sparing).mono hspared) hedit)

/-- No operation makes a session keep the result of a write, as long as it keeps its results in
memory. -/
theorem governs_perform_keepsReads {op : Operation}
    (hop : ∀ directory, op ≠ .setCacheDir directory) :
    (Law.preserving KeepsReads).Governs (perform op : Action (Session C) E Answer).run := by
  have hforget : (Law.preserving KeepsReads).Governs
      (forgetResults : Effect (Session C) E Bool) := by
    rintro ⟨s, w⟩ ⟨entries, hentries, -⟩
    rw [run_forgetResults w hentries]
    exact ⟨.empty, rfl, fun _ _ => rfl⟩
  have hedit (f : Session C → Session C) (hf : op.edit? = some f) (s : Session C)
      (h : s.KeepsReads) : (f s).KeepsReads := by
    cases op with
    | disableTransactions | setStrict | setCaching | setTablePrefix | forgetNames =>
      obtain rfl := Option.some.inj hf
      exact h.of_memory? rfl
    | renewStore =>
      obtain rfl := Option.some.inj hf
      exact ⟨.empty, rfl, fun _ _ => rfl⟩
    | setCacheDir directory => exact absurd rfl (hop directory)
    | _ => cases hf
  exact governs_perform_of_sparing (fun _ _ hst => (keepingReads_of_sparing hst).2)
    (fun _ _ => governs_query_keepingReads.mono fun _ _ h => h.2) hforget hedit

/-- A session that was never given a directory to keep its results in keeps none of a write. -/
theorem keepsReads_after {config : ConnectionConfig} (hdir : config.cacheDir = none) (conn : C)
    (w : World E) {ops : List Operation}
    (hops : ∀ op ∈ ops, ∀ directory, op ≠ .setCacheDir directory) :
    (after ops (create config conn, w)).1.KeepsReads := by
  have hstart : (create config conn).KeepsReads := by
    refine ⟨.empty, ?_, fun _ _ => rfl⟩
    unfold memory?
    rw [show (create config conn).config.cacheDir = none from hdir]
    rfl
  exact rel_after (fun op hop => governs_perform_keepsReads (hops op hop))
    (create config conn, w) hstart

/-! ## Sessions that keep nothing -/

/-- It may be given up to keep results, but not begun. -/
def unkept (C : Type) : Law (Session C) :=
  .preserving fun s => s.cacheOn = false

omit [Connection C] [Backend C E] in
theorem governs_onStore_unkept {default : α} {f : ResultStore → Disk → α × ResultStore × Disk} :
    (unkept C).Governs (onStore default f : Effect (Session C) E α) :=
  governs_onStore_of_parts (fun _ _ => id) fun _ _ => rfl

theorem governs_query_unkept {sql : String} {binds : List Value} :
    (unkept C).Governs (query sql binds : Action (Session C) E _).run :=
  governs_query_of_parts (fun _ => governs_onStore_unkept) fun _ =>
    .run_bind (governs_send_sparing.mono fun _ _ hst => hst.1.cacheOn.trans) fun _ =>
      .run_act (governs_settle_of_parts governs_onStore_unkept fun _ _ =>
        .bind governs_onStore_unkept fun _ => .pure)

/-- Only switching it on makes a session keep results. -/
theorem governs_perform_unkept {op : Operation} (hop : op ≠ .setCaching true) :
    (unkept C).Governs (perform op : Action (Session C) E Answer).run := by
  refine governs_perform_of_sparing (fun _ _ hst => hst.1.cacheOn.trans)
    (fun _ _ => governs_query_unkept) governs_onStore_unkept fun f hf s hoff => ?_
  cases op with
  | disableTransactions | setStrict | setCacheDir | renewStore | setTablePrefix | forgetNames =>
    obtain rfl := Option.some.inj hf
    exact hoff
  | setCaching on =>
    obtain rfl := Option.some.inj hf
    exact eq_false_of_ne_true fun heq => hop (congrArg _ heq)
  | _ => cases hf

/-! ## Statements that are sent -/

/-- No kept result answers the statement. -/
def Asked (sql : String) (s : Session C × World E) : Prop :=
  (s.1.cacheOn && mayBeKept sql) = true → ((kept? sql : Effect (Session C) E _) s).1 = none

/-- No kept result answers a statement when its turn comes. -/
def AllAsked : List String → Session C × World E → Prop
  | [], _ => True
  | sql :: sqls, s => Asked (s.1.finalText sql []) s ∧
    ∀ outcome t, (query sql [] : Action (Session C) E _).run s = (.ok outcome, t) → AllAsked sqls t

/-- A session that keeps no results answers nothing by one. -/
theorem allAsked_of_unkept {sqls : List String} {s : Session C} {w : World E}
    (h : s.cacheOn = false) : AllAsked sqls (s, w) := by
  induction sqls generalizing s w with
  | nil => trivial
  | cons sql sqls ih =>
    refine ⟨fun hkept => ?_, fun outcome t hrun => ih (governs_query_unkept.rel_of_eq hrun h)⟩
    rw [show s.cacheOn = false from h] at hkept
    cases hkept

/-- **Writes are sent.** A session that keeps its results in memory, and none of a write, answers no
write by a kept result. -/
theorem allAsked_of_writes {sqls : List String} {s : Session C} {w : World E} (h : s.KeepsReads)
    (hwrites : ∀ sql ∈ sqls, Statement.isWrite
      (PrefixSwap.apply s.config.tablePrefix s.config.swapPrefix sql) = true) :
    AllAsked sqls (s, w) := by
  -- each statement may change the session; that it keeps nothing of writes carries the induction
  induction sqls generalizing s w with
  | nil => trivial
  | cons sql sqls ih =>
    constructor
    · intro _
      obtain ⟨entries, hentries, hnone⟩ := h
      rw [run_kept? w hentries]
      refine hnone _ ?_
      rw [finalText_nil]
      exact hwrites sql (List.mem_cons_self ..)
    · rintro outcome ⟨t, v⟩ hrun
      obtain ⟨hconfig, hkeeps⟩ : (keepingReads C).rel s t :=
        governs_query_keepingReads.rel_of_eq hrun
      refine ih (hkeeps h) fun text htext => ?_
      rw [hconfig]
      exact hwrites text (List.mem_cons_of_mem _ htext)

/-- Writes are sent by any session that keeps no results, or keeps them in memory as a run leaves
them. Without a stand-in they go out as they are. -/
theorem allAsked_of_kept {sqls : List String} {s : Session C} {w : World E}
    (hkept : s.cacheOn = false ∨ s.KeepsReads) (hswap : s.config.swapPrefix = "")
    (hwrites : ∀ sql ∈ sqls, Statement.isWrite sql = true) : AllAsked sqls (s, w) := by
  rcases hkept with hoff | hkeeps
  · exact allAsked_of_unkept hoff
  · refine allAsked_of_writes hkeeps fun sql hsql => ?_
    rw [hswap, PrefixSwap.apply_eq_self (.inr (.inl rfl))]
    exact hwrites sql hsql

end Session

end SqlGateway
