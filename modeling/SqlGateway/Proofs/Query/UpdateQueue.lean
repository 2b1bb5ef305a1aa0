import SqlGateway.Proofs.Query.BatchInserts
import SqlGateway.Proofs.Query.Merging
import SqlGateway.Proofs.Session.Counting
import SqlGateway.Proofs.Sql.Updating

/-!
# The queue of batch updates

Rows of a batch update are queued by one call or by several, each with an index column of its own.
All rows stay queued, but only the index column of the last call is known when they are sent: a
batch update tells all rows apart by it, and rows that do not list it leave no trace.

Main definitions:

* `UpdateCall`: rows that are queued, and the index column they are queued by.
* `Builder.withUpdates`, `Builder.queueUpdatesOf`: what a call queues, and what several do.
* `Builder.updatesOf`: the batch updates of a queue, a hundred rows each.
* `Statement.Applied`: a row is told apart by a column, and its other fields are assigned.

Main results:

* `Builder.queueUpdatesOf_eq_ok_iff`: what is left in the builder.
* `Builder.updateBatch_cases`: what a batch update sends.
* `Builder.updateBatch_applies`: the rows that are applied.
-/

namespace SqlGateway

/-! ## Statements -/

namespace Statement

theorem isWrite_batchText (s : BatchUpdate) : isWrite (batchText s) = true := by
  refine isWrite_of_keyword "UPDATE" (by decide) ?_
  unfold batchText
  simp only [String.toList_append, List.append_assoc]
  exact ⟨_, rfl⟩

/-- Rows that do not list the index leave no trace. -/
theorem batchText_filter (s : BatchUpdate) :
    batchText { s with rows := s.rows.filter fun row => (row.lookup s.index).isSome } =
      batchText s := by
  have hkeyed : keyedRows s.index (s.rows.filter fun row => (row.lookup s.index).isSome) =
      keyedRows s.index s.rows := by
    rw [keyedRows, List.filterMap_filter]
    refine List.filterMap_congr fun row _ => ?_
    cases row.lookup s.index <;> rfl
  unfold batchText
  simp only [batchArms_eq, armedColumns, armsOf, ← ids_keyedRows, hkeyed]

/-- The row is among those of a batch update that tells rows apart by this column, and each of its
other fields is assigned there. -/
def Applied (updates : List BatchUpdate) (index : String) (row : List (String × String)) : Prop :=
  ∃ u ∈ updates, u.index = index ∧ ∃ id, row.lookup index = some id ∧
    id ∈ u.rows.filterMap (fun row => row.lookup u.index) ∧
    ∀ field ∈ row, field.1 ≠ index →
      ∃ arms, (field.1, arms) ∈ batchArms u ∧ (id, field.2) ∈ arms

theorem applied_of_mem {updates : List BatchUpdate} {u : BatchUpdate}
    {row : List (String × String)} {id : String} (hu : u ∈ updates) (hrow : row ∈ u.rows)
    (hid : row.lookup u.index = some id) : Applied updates u.index row := by
  refine ⟨u, hu, rfl, id, hid, List.mem_filterMap.2 ⟨row, hrow, hid⟩, fun field hfield hne => ?_⟩
  refine mem_batchArms_iff.2 ⟨row.filter fun f => f.1 ≠ u.index, ?_, ?_⟩
  · exact List.mem_filterMap.2 ⟨row, hrow, by rw [hid]; rfl⟩
  · exact List.mem_filter.2 ⟨hfield, decide_eq_true hne⟩

end Statement

/-! ## Calls -/

/-- Rows for a batch update, and the column by which they are queued. -/
structure UpdateCall where
  rows : List Record
  index : String

namespace UpdateCall

/-- The call is accepted: it names a column, which all of its rows have. -/
def Accepted (call : UpdateCall) : Prop :=
  Text.isBlank call.index = false ∧ ∀ row ∈ call.rows, row.contains call.index = true

/-- The call that a batch update makes, if it brings rows. -/
def ofArguments (rows? : Option (List Record)) (index? : Option String) : List UpdateCall :=
  match rows? with
  | some rows => [⟨rows, index?.getD ""⟩]
  | none => []

end UpdateCall

/-- A step refuses, and nothing is sent, or the plan goes on with what the step has found. -/
theorem Plan.refused_or {α : Type} {plan : Plan} {b : Builder} {found : Except Refusal α}
    {next : α → Plan} (h : plan = .orRefused found b next) :
    (plan.statements = [] ∧ plan.refusal ≠ none) ∨ ∃ x, found = .ok x ∧ plan = next x := by
  subst h
  cases found with
  | error r => exact .inl ⟨rfl, nofun⟩
  | ok x => exact .inr ⟨x, rfl, rfl⟩

namespace Builder

variable {style : Style} {b c : Builder} {calls : List UpdateCall} {table? index? : Option String}
  {rows? : Option (List Record)}

/-- The builder with what a call queues. -/
def withUpdates (style : Style) (b : Builder) (call : UpdateCall) : Builder :=
  { b with
    batch := b.batch ++ call.rows.map (b.updateRow style)
    batchIndex := some (b.column style call.index) }

theorem queueUpdates_eq_ok_iff {call : UpdateCall} :
    b.queueUpdates style call.rows call.index = .ok c ↔
      call.Accepted ∧ c = b.withUpdates style call := by
  unfold queueUpdates UpdateCall.Accepted
  rw [← List.all_eq_true (p := fun row : Record => row.contains call.index)]
  cases Text.isBlank call.index with
  | true => exact iff_of_false nofun fun h => Bool.noConfusion h.1.1
  | false =>
    rw [if_neg Bool.false_ne_true, and_iff_right rfl]
    split
    · next hall =>
      rw [and_iff_right hall, Except.ok.injEq, eq_comm]
      rfl
    · next hall => exact iff_of_false nofun fun h => hall h.1

/-- Queues what several calls bring, one call after the other. -/
def queueUpdatesOf (style : Style) (b : Builder) (calls : List UpdateCall) :
    Except Refusal Builder :=
  calls.foldlM (fun b call => b.queueUpdates style call.rows call.index) b

/-- The rows that calls queue. -/
def updateRowsOf (style : Style) (b : Builder) (calls : List UpdateCall) :
    List (List (String × String)) :=
  calls.flatMap fun call => call.rows.map (b.updateRow style)

/-- The last call says what tells all rows apart. -/
theorem foldl_withUpdates (style : Style) (b : Builder) (calls : List UpdateCall) :
    calls.foldl (withUpdates style) b = { b with
      batch := b.batch ++ b.updateRowsOf style calls
      batchIndex := (calls.getLast?.map fun call => b.column style call.index) <|>
        b.batchIndex } := by
  induction calls generalizing b with
  | nil =>
    rw [show b.updateRowsOf style [] = [] from rfl, List.append_nil]
    rfl
  | cons call calls ih =>
    -- neither the rows nor the columns depend on what is queued already
    have hcolumn : (b.withUpdates style call).column style = b.column style := rfl
    have hrows : (b.withUpdates style call).updateRowsOf style calls = b.updateRowsOf style calls :=
      rfl
    rw [List.foldl_cons, ih, hcolumn, hrows, withUpdates, updateRowsOf, updateRowsOf,
      List.flatMap_cons, List.append_assoc, List.getLast?_cons]
    cases calls.getLast? <;> rfl

theorem queueUpdatesOf_eq_ok_iff :
    b.queueUpdatesOf style calls = .ok c ↔
      (∀ call ∈ calls, call.Accepted) ∧ c = { b with
        batch := b.batch ++ b.updateRowsOf style calls
        batchIndex := (calls.getLast?.map fun call => b.column style call.index) <|>
          b.batchIndex } := by
  have hcall (b : Builder) (call : UpdateCall) (c : Builder) :
      b.queueUpdates style call.rows call.index = .ok c ↔
        call.Accepted ∧ c = b.withUpdates style call :=
    queueUpdates_eq_ok_iff
  rw [← foldl_withUpdates]
  exact foldlM_eq_ok_iff hcall

/-- A batch update queues by one call of its own at most. -/
theorem updatesArgument_eq (style : Style) (b : Builder) (rows? : Option (List Record))
    (index? : Option String) :
    b.updatesArgument style rows? index? =
      b.queueUpdatesOf style (UpdateCall.ofArguments rows? index?) := by
  cases rows? with
  | none => rfl
  | some rows => exact (bind_pure _).symm

theorem column_merge (style : Style) (b : Builder) : b.merge.column style = b.column style := by
  unfold column protect
  rw [aliases_merge]

theorem updateRowsOf_merge (style : Style) (b : Builder) (calls : List UpdateCall) :
    b.merge.updateRowsOf style calls = b.updateRowsOf style calls := by
  unfold updateRowsOf updateRow
  rw [column_merge]

/-- The snapshot has no queue. -/
theorem queue_merge (b : Builder) :
    b.merge.batch = b.batch ∧ b.merge.batchIndex = b.batchIndex := by
  unfold merge
  split <;> exact ⟨rfl, rfl⟩

/-- The queue takes no part in a merge. -/
theorem merge_queue (b : Builder) (batch : List (List (String × String)))
    (batchIndex : Option String) :
    { b with batch, batchIndex }.merge = { b.merge with batch, batchIndex } := by
  unfold merge
  dsimp only
  split <;> rfl

/-! ## Sending -/

/-- The batch updates that a queue is sent as. -/
def updatesOf (table index : String) (conditions : List String)
    (queue : List (List (String × String))) : List BatchUpdate :=
  (chunks chunkSize queue).map fun rows => ⟨table, rows, index, conditions⟩

theorem batchIndex_of_needIndex {index : String} (h : b.needIndex = .ok index) :
    b.batchIndex = some index := by
  unfold needIndex at h
  split at h
  · next hindex => rw [hindex, Except.ok.inj h]
  · cases h

theorem batch_of_needBatch {batch : List (List (String × String))} (h : b.needBatch = .ok batch) :
    b.batch = batch ∧ batch ≠ [] := by
  unfold needBatch at h
  split at h
  · cases h
  · next hempty =>
    obtain rfl := Except.ok.inj h
    exact ⟨rfl, fun hnil => hempty (List.isEmpty_iff.2 hnil)⟩

/-- A batch update is refused and sends nothing, or it sends the whole queue, told apart by one
column: that of the last call. -/
theorem updateBatch_cases (style : Style) (b : Builder) (table? : Option String)
    (rows? : Option (List Record)) (index? : Option String) :
    let plan := b.updateBatch style table? rows? index?
    let calls := UpdateCall.ofArguments rows? index?
    let queue := b.batch ++ b.updateRowsOf style calls
    (plan.statements = [] ∧ plan.refusal ≠ none) ∨
      ∃ table index, (∀ call ∈ calls, call.Accepted) ∧ queue ≠ [] ∧
        b.merge.target style table? = .ok table ∧
        ((calls.getLast?.map fun call => b.column style call.index) <|> b.batchIndex) =
          some index ∧
        plan.refusal = none ∧
        plan.statements =
          (updatesOf table index (Fragment.render b.merge.live.wheres) queue).map
            style.dialect.batchUpdateText := by
  intro plan calls queue
  -- the rows, the index, the queue and the table are asked for in this order
  obtain hrefused | ⟨c, hqueued, hplan⟩ := Plan.refused_or (show plan = .orRefused _ _ _ from rfl)
  · exact .inl hrefused
  obtain hrefused | ⟨index, hindex, hplan⟩ := Plan.refused_or hplan
  · exact .inl hrefused
  obtain hrefused | ⟨batch, hbatch, hplan⟩ := Plan.refused_or hplan
  · exact .inl hrefused
  obtain hrefused | ⟨table, htable, hplan⟩ := Plan.refused_or hplan
  · exact .inl hrefused
  right
  rw [updatesArgument_eq] at hqueued
  obtain ⟨haccepted, hc⟩ := queueUpdatesOf_eq_ok_iff.1 hqueued
  rw [updateRowsOf_merge, column_merge, (queue_merge b).1, (queue_merge b).2] at hc
  replace hindex := batchIndex_of_needIndex hindex
  obtain ⟨hbatch, hsome⟩ := batch_of_needBatch hbatch
  subst hc hbatch
  refine ⟨table, index, haccepted, hsome, htable, hindex, by rw [hplan]; rfl, ?_⟩
  rw [hplan, updatesOf, List.map_map]
  rfl

/-- What a batch update sends after some calls that were queued into an empty queue, if it is not
refused. -/
theorem statements_updateBatch (hempty : b.batch = [])
    (hqueued : b.queueUpdatesOf style calls = .ok c)
    (hrefusal : (c.updateBatch style table? rows? index?).refusal = none) :
    let all := calls ++ UpdateCall.ofArguments rows? index?
    (∀ call ∈ all, call.Accepted) ∧ ∃ table last, b.merge.target style table? = .ok table ∧
      all.getLast? = some last ∧ (c.updateBatch style table? rows? index?).statements =
        (updatesOf table (b.column style last.index) (Fragment.render b.merge.live.wheres)
          (b.updateRowsOf style all)).map style.dialect.batchUpdateText := by
  intro all
  obtain ⟨haccepted, rfl⟩ := queueUpdatesOf_eq_ok_iff.1 hqueued
  obtain ⟨-, hrefused⟩ | ⟨table, index, hlast, hsome, htable, hindex, -, hstatements⟩ :=
    updateBatch_cases style _ table? rows? index?
  · exact absurd hrefusal hrefused
  have hqueue : b.batch ++ b.updateRowsOf style calls ++
      b.updateRowsOf style (UpdateCall.ofArguments rows? index?) = b.updateRowsOf style all := by
    rw [hempty, List.nil_append]
    exact List.flatMap_append.symm
  replace hsome : b.updateRowsOf style all ≠ [] := hqueue ▸ hsome
  obtain ⟨last, hall⟩ : ∃ last, all.getLast? = some last := by
    refine Option.ne_none_iff_exists'.1 fun hnone => hsome ?_
    rw [List.getLast?_eq_none_iff.1 hnone]
    rfl
  have hcolumn : b.column style last.index = index := by
    rw [List.getLast?_append] at hall
    replace hindex : (((UpdateCall.ofArguments rows? index?).getLast?.map
        fun call => b.column style call.index) <|>
        ((calls.getLast?.map fun call => b.column style call.index) <|> b.batchIndex)) =
          some index := hindex
    -- the last call is that of the batch update itself, or else the last one before
    cases hown : (UpdateCall.ofArguments rows? index?).getLast? with
    | some call =>
      rw [hown] at hall hindex
      rw [← Option.some.inj hall]
      exact Option.some.inj hindex
    | none =>
      rw [hown, Option.none_or] at hall
      rw [hown, hall] at hindex
      exact Option.some.inj hindex
  refine ⟨fun call hcall => (List.mem_append.1 hcall).elim (haccepted call) (hlast call),
    table, last, ?_, hall, ?_⟩
  · rw [merge_queue] at htable
    exact htable
  · rw [merge_queue] at hstatements
    rw [hcolumn, ← hqueue]
    exact hstatements

/-! ## Rows that are applied -/

section
open Statement (Applied)

variable {table index : String} {conditions : List String} {queue : List (List (String × String))}

/-- A row of the queue that lists the index is applied. -/
theorem applied_updatesOf {row : List (String × String)} {id : String} (hrow : row ∈ queue)
    (hid : row.lookup index = some id) :
    Applied (updatesOf table index conditions queue) index row := by
  rw [← flatten_chunks chunkSize queue] at hrow
  obtain ⟨rows, hrows, hrow⟩ := List.mem_flatten.1 hrow
  exact Statement.applied_of_mem (u := ⟨table, rows, index, conditions⟩)
    (List.mem_map.2 ⟨rows, hrows, rfl⟩) hrow hid

theorem index_of_applied {column : String} {row : List (String × String)}
    (h : Applied (updatesOf table index conditions queue) column row) : column = index := by
  obtain ⟨u, hu, rfl, -⟩ := h
  obtain ⟨rows, -, rfl⟩ := List.mem_map.1 hu
  rfl

end

/-- A row that a call has queued lists the index column of the call. -/
theorem exists_lookup_updateRow {call : UpdateCall} (hcall : call.Accepted) {row : Record}
    (hrow : row ∈ call.rows) :
    ∃ id, (b.updateRow style row).lookup (b.column style call.index) = some id := by
  refine Option.ne_none_iff_exists'.1 fun hnone => lookup_eq_none_iff_keysOf.1 hnone ?_
  have hkey : call.index ∈ row.keys :=
    OrderedMap.mem_keys_iff.2 (Option.isSome_iff_exists.1 (hcall.2 row hrow))
  obtain ⟨entry, hentry, hsame⟩ := List.mem_map.1 hkey
  rw [updateRow, keysOf, List.map_map]
  exact List.mem_map.2 ⟨entry, hentry, congrArg (b.column style) hsame⟩

/-! ### Runs -/

open Reading (statements)
open Session (AllAsked)
open Statement (Applied)

variable {C E : Type} [Connection C] [Backend C E]

theorem isWrite_statements_updateBatch {sql : String}
    (h : sql ∈ (b.updateBatch style table? rows? index?).statements) :
    Statement.isWrite sql = true := by
  obtain ⟨hnone, -⟩ | ⟨table, index, -, -, -, -, -, hstatements⟩ :=
    updateBatch_cases style b table? rows? index?
  · rw [hnone] at h
    cases h
  · rw [hstatements] at h
    obtain ⟨u, -, rfl⟩ := List.mem_map.1 h
    exact Statement.isWrite_batchText u

/-- Batch updates are sent by any session that keeps no results, or keeps them in memory as a run
leaves them. -/
theorem allAsked_updateBatch {s : Session C} {w : World E}
    (hkept : s.cacheOn = false ∨ s.KeepsReads) (hswap : s.config.swapPrefix = "") :
    AllAsked (b.updateBatch style table? rows? index?).statements (s, w) :=
  Session.allAsked_of_kept hkept hswap fun _ => isWrite_statements_updateBatch

/-- A batch update that succeeds is not refused, and all of its statements are sent. -/
theorem sent_updateBatch {s : Session (Metered C)} {w : World E}
    (hok : ((Database.write fun style b => b.updateBatch style table? rows? index? :
      Action (Database (Metered C)) E Nat).run (⟨s, some b⟩, w)).1.isOk = true) :
    let plan := b.updateBatch ⟨s.dialect, s.rules⟩ table? rows? index?
    let r := (Database.write fun style b => b.updateBatch style table? rows? index? :
      Action (Database (Metered C)) E Nat).run (⟨s, some b⟩, w)
    plan.refusal = none ∧ (AllAsked plan.statements (s, w) →
      ∃ added, r.2.1.session.conn.readings = s.conn.readings ++ added ∧
        (statements added).map Prod.fst =
          plan.statements.map (PrefixSwap.apply s.config.tablePrefix s.config.swapPrefix)) := by
  obtain ⟨hrefusal, hsent⟩ :=
    Database.sent_of_isOk (fun style b => b.updateBatch style table? rows? index?) hok
  refine ⟨hrefusal, fun hasked => ?_⟩
  obtain ⟨added, hadded, htexts, -⟩ := hsent
    (fun sql hsql => Statement.isBlank_of_isWrite (isWrite_statements_updateBatch hsql)) hasked
  exact ⟨added, hadded, htexts⟩

/-- **Which rows are applied.** A batch update that succeeds has sent all rows of all calls in its
statements. They tell rows apart by the index column of the last call. So a row is applied exactly
if its own call has the same index column; a row that does not list the last one leaves no trace.
What is assumed of kept results holds in every session that keeps none or keeps them in memory, by
`allAsked_updateBatch`. -/
theorem updateBatch_applies {calls : List UpdateCall} {s : Session (Metered C)} {w : World E}
    (hempty : b.batch = []) (hqueued : b.queueUpdatesOf ⟨s.dialect, s.rules⟩ calls = .ok c)
    (hok : ((Database.write fun style b => b.updateBatch style table? rows? index? :
      Action (Database (Metered C)) E Nat).run (⟨s, some c⟩, w)).1.isOk = true) :
    let style : Style := ⟨s.dialect, s.rules⟩
    let all := calls ++ UpdateCall.ofArguments rows? index?
    let plan := c.updateBatch style table? rows? index?
    let r := (Database.write fun style b => b.updateBatch style table? rows? index? :
      Action (Database (Metered C)) E Nat).run (⟨s, some c⟩, w)
    ∃ table last, all.getLast? = some last ∧
      let index := b.column style last.index
      let updates := updatesOf table index (Fragment.render b.merge.live.wheres)
        (b.updateRowsOf style all)
      plan.statements = updates.map style.dialect.batchUpdateText ∧
      (AllAsked plan.statements (s, w) →
        ∃ added, r.2.1.session.conn.readings = s.conn.readings ++ added ∧
          (statements added).map Prod.fst = updates.map fun u =>
            PrefixSwap.apply s.config.tablePrefix s.config.swapPrefix
              (style.dialect.batchUpdateText u)) ∧
      (∀ call ∈ all, ∀ row ∈ call.rows,
        (Applied updates (b.column style call.index) (b.updateRow style row) ↔
          b.column style call.index = index)) ∧
      ∀ u ∈ updates, style.dialect.batchUpdateText u = style.dialect.batchUpdateText
        { u with rows := u.rows.filter fun row => (row.lookup index).isSome } := by
  intro style all plan r
  obtain ⟨hrefusal, hsent⟩ := sent_updateBatch hok
  obtain ⟨haccepted, table, last, -, hlast, hstatements⟩ :=
    statements_updateBatch hempty hqueued hrefusal
  refine ⟨table, last, hlast, hstatements, fun hasked => ?_,
    fun call hcall row hrow => ⟨index_of_applied, fun hsame => ?_⟩, fun u hu => ?_⟩
  · obtain ⟨added, hadded, htexts⟩ := hsent hasked
    refine ⟨added, hadded, htexts.trans ?_⟩
    rw [hstatements, List.map_map]
    rfl
  · obtain ⟨id, hid⟩ := exists_lookup_updateRow (haccepted call hcall) hrow
    rw [hsame] at hid ⊢
    exact applied_updatesOf
      (List.mem_flatMap.2 ⟨call, hcall, List.mem_map_of_mem hrow⟩) hid
  · obtain ⟨rows, -, rfl⟩ := List.mem_map.1 hu
    exact (Statement.batchText_filter _).symm

/-- A session that keeps no results. -/
def plainSession : Session (Metered Scripted) :=
  .create (.ofKind "mock") (Metered.untouched (Scripted.ofDialect .mysql))

/-- Two calls that name the same index column, each in its own way. -/
def alikeCalls : List UpdateCall :=
  [⟨[.ofList [("a", .int 1), ("v", .int 2)]], "a"⟩,
    ⟨[.ofList [(" a", .int 3), ("v", .int 4)]], " a"⟩]

/-- What these calls queue. -/
def alikeQueued : Builder :=
  { Builder.empty with
    batch := [[("`a`", "1"), ("`v`", "2")], [("`a`", "3"), ("`v`", "4")]]
    batchIndex := some "`a`" }

/-- Calls that name the same column have all of their rows applied. -/
theorem updateBatch_applies_alike :
    let style : Style := ⟨plainSession.dialect, plainSession.rules⟩
    let r := (Database.write fun style b => b.updateBatch style (some "t") none none :
      Action (Database (Metered Scripted)) Script Nat).run
        (⟨plainSession, some alikeQueued⟩, ⟨.empty, default⟩)
    Builder.empty.queueUpdatesOf style alikeCalls = .ok alikeQueued ∧
      r.1.isOk = true ∧
      ∃ updates : List BatchUpdate,
        (∃ added, r.2.1.session.conn.readings = added ∧
          (statements added).map Prod.fst = updates.map fun u =>
            PrefixSwap.apply "" "" (style.dialect.batchUpdateText u)) ∧
        ∀ call ∈ alikeCalls, ∀ row ∈ call.rows,
          Applied updates (Builder.empty.column style call.index)
            (Builder.empty.updateRow style row) := by
  have hqueued : Builder.empty.queueUpdatesOf ⟨plainSession.dialect, plainSession.rules⟩
      alikeCalls = .ok alikeQueued := by
    decide +kernel
  have hok : ((Database.write fun style b => b.updateBatch style (some "t") none none :
      Action (Database (Metered Scripted)) Script Nat).run
        (⟨plainSession, some alikeQueued⟩, ⟨.empty, default⟩)).1.isOk = true := by
    decide +kernel
  obtain ⟨table, last, hlast, -, hsent, hrows, -⟩ := updateBatch_applies rfl hqueued hok
  obtain ⟨added, hadded, htexts⟩ := hsent (Session.allAsked_of_unkept rfl)
  -- the columns are protected, which trims the second one
  have hcolumns : ∀ call ∈ alikeCalls, Builder.empty.column
      ⟨plainSession.dialect, plainSession.rules⟩ call.index = "`a`" := by
    decide +kernel
  refine ⟨hqueued, hok, _, ⟨added, hadded, htexts⟩, fun call hcall row hrow => ?_⟩
  refine (hrows call (List.mem_append_left _ hcall) row hrow).2 ?_
  have hmem : last ∈ alikeCalls := by
    rw [show UpdateCall.ofArguments none none = [] from rfl, List.append_nil] at hlast
    exact List.mem_of_getLast? hlast
  exact (hcolumns call hcall).trans (hcolumns last hmem).symm

/-- The second call names another column: the row of the first one is not sent at all. -/
theorem updateBatch_drops :
    let style : Style := ⟨plainSession.dialect, plainSession.rules⟩
    let calls : List UpdateCall :=
      [⟨[.ofList [("a", .int 1), ("v", .int 2)]], "a"⟩,
        ⟨[.ofList [("b", .int 3), ("w", .int 4)]], "b"⟩]
    let sql := "UPDATE `t` SET `w` = CASE WHEN `b` = 3 THEN 4 ELSE `w` END WHERE `b` IN (3)"
    let answer := (Builder.empty.queueUpdatesOf style calls).map fun c =>
      let r := (Database.write fun style b => b.updateBatch style (some "t") none none :
        Action (Database (Metered Scripted)) Script Nat).run
          (⟨plainSession, some c⟩, ⟨.empty, default⟩)
      (r.1.isOk, c.batch, (statements r.2.1.session.conn.readings).map Prod.fst)
    answer =
        .ok (true, [[("`a`", "1"), ("`v`", "2")], [("`b`", "3"), ("`w`", "4")]], [sql]) ∧
      ¬Text.Within "`a`" sql ∧ ¬Text.Within "`v`" sql :=
  ⟨by decide +kernel, by unfold Text.Within; decide +kernel, by unfold Text.Within; decide +kernel⟩

end Builder

end SqlGateway
