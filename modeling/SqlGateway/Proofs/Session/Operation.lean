import SqlGateway.Proofs.Session.Upkeep

/-!
# Operations on a session

Everything that a caller can do with a session, as data, so that statements can range over all runs:
over every order of operations, with whatever answers the backend gives on the way.

Main definitions:

* `Session.Operation`: the operations with their arguments.
* `Session.perform`: what an operation does, and its answer.
* `Session.run`: operations one after the other. A failed operation is answered by its error, and
  the run goes on.

Main results:

* `Session.meets_perform`: operations outside of transactions meet every contract that connecting
  and querying meet.
* `Session.governs_plain`: most operations obey every law that the sending of statements obeys.
* `Session.rel_after`: a law that governs each operation governs a run.
-/

namespace SqlGateway.Session

inductive Operation where
  | connect
  | reconnect
  | close
  | query (sql : String) (binds : List Value)
  | runDirect (sql : String)
  | startGroup (test : Bool)
  | completeGroup
  | beginManual (test : Bool)
  | commitManual
  | rollbackManual
  | disableTransactions
  | setStrict (strict : Bool)
  | setCaching (on : Bool)
  | forgetResults
  | setCacheDir (directory : String)
  /-- Results are kept in a new store in memory. -/
  | renewStore
  | setTablePrefix (tablePrefix : String)
  | tables (withPrefix : Bool)
  | tableExists (table : String)
  | columns (table : String)
  | columnExists (column table : String)
  | columnData (table : String)
  | primaryKey (table : String)
  | version
  | countAll (table : String)
  | forgetNames
  deriving DecidableEq

/-- What an operation answers. -/
inductive Answer where
  | done
  | transaction (outcome : TransactionOutcome)
  | statement (outcome : QueryOutcome)
  | handle (handle? : Option Handle)
  | flag (holds : Bool)
  | name (name? : Option String)
  | names (names : List String)
  | fields (columns : List Column)
  | text (text : String)
  | count (n : Nat)
  deriving DecidableEq

/-- The operation changes neither settings nor the transaction, failed statements aside. -/
def Operation.isPlain : Operation → Bool
  | startGroup _ | completeGroup | beginManual _ | commitManual | rollbackManual => false
  | disableTransactions | setStrict _ | setCacheDir _ | setTablePrefix _ => false
  | _ => true

/-- The operation asks the backend by queries, and does nothing else with it. -/
def Operation.isInquiry : Operation → Bool
  | query _ _ | tables _ | tableExists _ | columns _ | columnExists _ _ | columnData _ => true
  | primaryKey _ | version | countAll _ => true
  | _ => false

/-- The operation opens or closes levels of a transaction. -/
def Operation.isTransactional : Operation → Bool
  | startGroup _ | completeGroup | beginManual _ | commitManual | rollbackManual => true
  | _ => false

variable {C E α : Type}

/-- What an operation changes in a session, if that is all it does. -/
def Operation.edit? : Operation → Option (Session C → Session C)
  | disableTransactions => some fun s =>
    { s with transaction := { s.transaction with enabled := false } }
  | setStrict strict => some fun s => { s with transaction := { s.transaction with strict } }
  | setCaching on => some fun s => { s with cacheOn := on }
  | setCacheDir directory => some fun s => s.setCacheDir directory
  | renewStore => some fun s => { s with store := some .inMemory }
  | setTablePrefix tablePrefix => some fun s => s.setTablePrefix tablePrefix
  | forgetNames => some Session.forgetNames
  | _ => none

/-- An edit touches neither the connection nor the number of open levels. -/
theorem Operation.edit?_spec {op : Operation} {f : Session C → Session C} (h : op.edit? = some f)
    (s : Session C) : (f s).conn = s.conn ∧ (f s).transaction.depth = s.transaction.depth := by
  cases op with
  | disableTransactions | setStrict | setCaching | setCacheDir | renewStore | setTablePrefix
    | forgetNames =>
    obtain rfl := Option.some.inj h
    exact ⟨rfl, rfl⟩
  | _ => cases h

/-- An edit of a plain operation leaves settings and transaction alone as well. -/
theorem Operation.edit?_plain {op : Operation} {f : Session C → Session C} (h : op.edit? = some f)
    (hplain : op.isPlain = true) (s : Session C) : (upkeep .unchanged).rel s (f s) := by
  cases op with
  | setCaching | renewStore | forgetNames =>
    obtain rfl := Option.some.inj h
    exact upkeep_rel_of_eq rfl rfl rfl
  | disableTransactions | setStrict | setCacheDir | setTablePrefix => cases hplain
  | _ => cases h

/-- A change that needs no backend. -/
def change (f : Session C → Session C) : Action (Session C) E Answer := do
  Action.modifySubject f
  return .done

variable [Connection C] [Backend C E]

def perform : Operation → Action (Session C) E Answer
  | .connect => do connect; return .done
  | .reconnect => do reconnect; return .done
  | .close => do (close : Effect (Session C) E Unit).act; return .done
  | .query sql binds => return .statement (← query sql binds)
  | .runDirect sql => return .handle (← runDirect sql)
  | .startGroup test => do startGroup test; return .done
  | .completeGroup => return .transaction (← completeGroup)
  | .beginManual test => do beginManual test; return .done
  | .commitManual => do commitManual; return .done
  | .rollbackManual => do rollbackManual; return .done
  | .disableTransactions =>
    change fun s => { s with transaction := { s.transaction with enabled := false } }
  | .setStrict strict => change fun s => { s with transaction := { s.transaction with strict } }
  | .setCaching on => change fun s => { s with cacheOn := on }
  | .forgetResults => return .flag (← (forgetResults : Effect (Session C) E Bool).act)
  | .setCacheDir directory => change fun s => s.setCacheDir directory
  | .renewStore => change fun s => { s with store := some .inMemory }
  | .setTablePrefix tablePrefix => change fun s => s.setTablePrefix tablePrefix
  | .tables withPrefix => return .names (← tables withPrefix)
  | .tableExists table => return .flag (← tableExists table)
  | .columns table => return .names (← columns table)
  | .columnExists column table => return .flag (← columnExists column table)
  | .columnData table => return .fields (← columnData table)
  | .primaryKey table => return .name (← primaryKey table)
  | .version => return .text (← version)
  | .countAll table => return .count (← countAll table)
  | .forgetNames => change forgetNames

/-- The answers to operations. -/
def run : List Operation → Effect (Session C) E (List (Except DbError Answer))
  | [] => return []
  | op :: ops => do
    let answer ← (perform op).run
    return answer :: (← run ops)

omit [Connection C] [Backend C E] in
/-- Turning what an action gives into an answer does not touch the state. -/
theorem state_answer (a : Action (Session C) E α) (f : α → Answer) (s : Session C × World E) :
    ((do return f (← a) : Action (Session C) E Answer).run s).2 = (a.run s).2 := by
  rw [Action.run_bind_apply]
  cases (a.run s).1 <;> rfl

/-- A contract that queries meet is met by all that is put together from them. -/
theorem meets_inquiry {K : Contract (Session C)} {op : Operation} (hinquiry : op.isInquiry = true)
    (h : Queried E K) : K.Meets (perform op : Action (Session C) E Answer) := by
  cases op with
  | query sql binds => exact .bind (h.query sql binds) fun _ => .pure
  | tables withPrefix => exact .bind (meets_tables h) fun _ => .pure
  | tableExists table =>
    exact .bind (.bind .subject fun _ => .bind (meets_tables h) fun _ => .pure) fun _ => .pure
  | columns table => exact .bind (meets_columns h) fun _ => .pure
  | columnExists column table =>
    exact .bind (.bind (meets_columns h) fun _ => .pure) fun _ => .pure
  | columnData table => exact .bind (meets_columnData h.query) fun _ => .pure
  | primaryKey table => exact .bind (meets_primaryKey h) fun _ => .pure
  | version => exact .bind (meets_version h.query) fun _ => .pure
  | countAll table => exact .bind (meets_countAll h.query) fun _ => .pure
  | _ => cases hinquiry

/-- A contract that is met by what operations outside of transactions are made of. Closing is not
among it, as few contracts of open connections allow for that. -/
structure Served (E : Type) [Backend C E] (K : Contract (Session C)) : Prop
    extends Queried E K where
  connect : K.Meets (connect : Action (Session C) E Unit)
  reconnect : K.Meets (reconnect : Action (Session C) E Unit)
  runDirect : ∀ sql, K.Meets (runDirect sql : Action (Session C) E _)
  store : K.done.Governs (forgetResults : Effect (Session C) E Bool)

/-- Operations that leave transactions alone meet such a contract, if their edits do. -/
theorem meets_perform {K : Contract (Session C)} {op : Operation} (h : Served E K)
    (hother : op.isTransactional = false)
    (hclose : op = .close → K.done.Governs (close : Effect (Session C) E Unit))
    (hedit : ∀ f, op.edit? = some f → ∀ s, K.done.rel s (f s)) :
    K.Meets (perform op : Action (Session C) E Answer) := by
  have hchange {f : Session C → Session C} (hf : ∀ s, K.done.rel s (f s)) :
      K.Meets (change f : Action (Session C) E Answer) :=
    .bind (.modifySubject hf) fun _ => .pure
  cases op with
  | connect => exact .bind h.connect fun _ => .pure
  | reconnect => exact .bind h.reconnect fun _ => .pure
  | close => exact .bind (.act (hclose rfl)) fun _ => .pure
  | runDirect sql => exact .bind (h.runDirect sql) fun _ => .pure
  | forgetResults => exact .bind (.act h.store) fun _ => .pure
  | disableTransactions | setStrict | setCaching | setCacheDir | renewStore | setTablePrefix
    | forgetNames => exact hchange (hedit _ rfl)
  | query | tables | tableExists | columns | columnExists | columnData | primaryKey | version
    | countAll => exact meets_inquiry rfl h.toQueried
  | startGroup | completeGroup | beginManual | commitManual | rollbackManual => cases hother

/-- Operations of a transaction obey a law that does not look at the transaction, if its starting and
its end do. -/
theorem governs_transactional {L : Law (Session C)} {op : Operation}
    (hop : op.isTransactional = true)
    (hstep : ∀ (s : Session C) transaction, L.rel s { s with transaction })
    (hstart : L.Governs (startPhysical : Action (Session C) E Unit).run)
    (hcommit : L.Governs (onConn Backend.commit : Action (Session C) E Unit).run)
    (hrollback : L.Governs (onConn Backend.rollback : Action (Session C) E Unit).run) :
    L.Governs (perform op : Action (Session C) E Answer).run := by
  cases op with
  | startGroup => exact .run_bind (governs_startGroup hstep hstart) fun _ => .run_pure
  | completeGroup =>
    exact .run_bind (governs_completeGroup hstep hcommit hrollback) fun _ => .run_pure
  | beginManual => exact .run_bind (governs_beginManual hstep hstart) fun _ => .run_pure
  | commitManual => exact .run_bind (governs_endManual hstep hcommit) fun _ => .run_pure
  | rollbackManual => exact .run_bind (governs_endManual hstep hrollback) fun _ => .run_pure
  | _ => cases hop

/-- A law that the sending of statements obeys governs the plain operations. -/
theorem governs_plain {L : Law (Session C)} {op : Operation} (hplain : op.isPlain = true)
    (h : Obeyed E L) : L.Governs (perform op : Action (Session C) E Answer).run := by
  have hserved : Served E L.contract :=
    { h.queried with
      connect := Contract.meets_contract_iff.2 h.connect
      reconnect := Contract.meets_contract_iff.2 h.reconnect
      runDirect := fun sql => Contract.meets_contract_iff.2 (h.runDirect sql)
      store := governs_onStore.mono h.still }
  have hother : op.isTransactional = false := by
    cases op <;> first | rfl | cases hplain
  refine Contract.meets_contract_iff.1 (meets_perform hserved hother (fun _ => h.close) ?_)
  exact fun f hf s => h.still _ _ (Operation.edit?_plain hf hplain s)

/-! ## Runs -/

/-- The state that operations lead to. -/
def after (ops : List Operation) (s : Session C × World E) : Session C × World E :=
  (run ops s).2

@[simp]
theorem after_nil (s : Session C × World E) : after [] s = s :=
  rfl

@[simp]
theorem after_cons (op : Operation) (ops : List Operation) (s : Session C × World E) :
    after (op :: ops) s = after ops ((perform op).run s).2 :=
  rfl

theorem after_append (ops more : List Operation) (s : Session C × World E) :
    after (ops ++ more) s = after more (after ops s) := by
  induction ops generalizing s with
  | nil => rfl
  | cons op ops ih => exact ih _

/-- The state after one operation more. -/
theorem after_concat (ops : List Operation) (op : Operation) (s : Session C × World E) :
    after (ops ++ [op]) s = ((perform op).run (after ops s)).2 :=
  after_append ops [op] s

/-- A law that governs every operation governs runs. -/
theorem rel_after {L : Law (Session C)} {ops : List Operation}
    (h : ∀ op ∈ ops, L.Governs (perform op : Action (Session C) E Answer).run)
    (s : Session C × World E) : L.rel s.1 (after ops s).1 := by
  induction ops generalizing s with
  | nil => exact L.refl s.1
  | cons op ops ih =>
    rw [after_cons]
    exact L.trans (h op (List.mem_cons_self ..) s)
      (ih (fun op hop => h op (List.mem_cons_of_mem _ hop)) _)

end SqlGateway.Session
