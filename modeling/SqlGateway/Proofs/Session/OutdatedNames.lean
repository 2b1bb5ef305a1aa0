import SqlGateway.Proofs.Session.Listings

/-!
# Names outlive connections

The names of tables and columns are remembered by the session, and not by its connection. Closing
the connection does not forget them, and neither does opening it again, so a listing may answer with
what was read over a connection that is closed by then. With a backend that gives up no connection
by itself this happens exactly if the connection was closed after the names were read.

Main results:

* `Session.names_outlive_connections`: by which statement the names of a listing were read, and
  whether over the connection that is open.
-/

namespace SqlGateway.Session

variable {C E : Type} [Connection C] [Backend C E]

/-- The listing that an operation asks for and answers with. -/
def Operation.listing? (s : Session C) : Operation → Option Listing
  | tables withPrefix => if withPrefix && s.config.tablePrefix ≠ "" then none else some .tables
  | columns table => some (.columns (s.rules.tableName table))
  | _ => none

theorem perform_listing {op : Operation} {s : Session C} {l : Listing} (h : op.listing? s = some l)
    (w : World E) :
    (perform op : Action (Session C) E Answer).run (s, w) =
      (((recollect l : Action (Session C) E _).run (s, w)).1.map .names,
        ((recollect l : Action (Session C) E _).run (s, w)).2) := by
  cases op with
  | tables withPrefix =>
    unfold Operation.listing? at h
    dsimp only at h
    split at h
    · cases h
    · next hall =>
      obtain rfl := Option.some.inj h
      rw [perform, Action.run_bind_pure_apply, run_tables w (eq_false_of_ne_true hall)]
  | columns table =>
    obtain rfl := Option.some.inj h
    rw [perform, Action.run_bind_pure_apply, run_columns]
  | _ => cases h

/-- What a listing answered is remembered. -/
theorem names?_of_listing {op : Operation} {s t : Session (Logged C)} {l : Listing}
    (h : op.listing? s = some l) {w v : World E} {names : List String}
    (hr : (perform op : Action (Session (Logged C)) E Answer).run (s, w) =
      (.ok (.names names), t, v)) : l.names? t.catalogue = some names := by
  rw [perform_listing h] at hr
  rcases hrecollect : (recollect l : Action (Session (Logged C)) E _).run (s, w) with ⟨r, u⟩
  rw [hrecollect] at hr
  rcases recollect_cases hrecollect with
    ⟨known, hknown, rfl, rfl⟩ | ⟨herror, -⟩ | ⟨read, rfl, hadded⟩
  · cases hr
    exact hknown
  · cases r with
    | ok _ => cases herror
    | error _ => cases hr
  · cases hr
    rw [hadded.noted, Listing.names?_note, if_pos rfl]

/-- **Names outlive connections.** Take any run of a session that keeps no results, and a listing
after it. If it fails, then nothing is remembered of it. If it answers, then with names that one of
the operations read by its last statement, over a connection that was open then, and that were not
forgotten since. With a backend that gives up no connection by itself, that is the connection which
is open when they are answered, if and only if nobody closed it in between. And whatever is done
next, with the connection or otherwise: as long as the names are not forgotten they are the answer,
and the backend is not asked. -/
theorem names_outlive_connections {config : ConnectionConfig} (hoff : config.cacheOn = false)
    (conn : C) (w : World E) {ops : List Operation} (hops : ∀ op ∈ ops, op ≠ .setCaching true) :
    let start := (create config (Logged.untouched conn), w)
    let s := after ops start
    (∀ op e t, (perform op : Action (Session (Logged C)) E Answer).run s = (.error e, t) →
      t.1.catalogue = s.1.catalogue) ∧
    ∀ op l names t, op.listing? s.1 = some l →
      (perform op : Action (Session (Logged C)) E Answer).run s = (.ok (.names names), t) →
      (∃ pre reader post since, ops ++ [op] = pre ++ reader :: post ∧ .forgetNames ∉ post ∧
        l.ReadBy E names (after pre start).1 (after (pre ++ [reader]) start).1 ∧
        t.1.conn.log = (after (pre ++ [reader]) start).1.conn.log ++ since ∧
        (Steadfast C E →
          (t.1.isConnected = true ∧ (∀ e ∈ since, e.event.isSwitch = false) ↔
            .close ∉ post))) ∧
      ∀ more again, .forgetNames ∉ more → again.listing? (after more t).1 = some l →
        (perform again : Action (Session (Logged C)) E Answer).run (after more t) =
          (.ok (.names names), after more t) := by
  intro start s
  refine ⟨fun op e t hr => catalogue_of_error hr, fun op l names t hlisting hr => ?_⟩
  have hnames : l.names? t.1.catalogue = some names := names?_of_listing hlisting hr
  constructor
  · have hend : after (ops ++ [op]) start = t := by
      rw [after_concat]
      exact congrArg Prod.snd hr
    have hall : ∀ op' ∈ ops ++ [op], op' ≠ .setCaching true := by
      intro op' hmem
      rcases List.mem_append.1 hmem with hmem | hmem
      · exact hops op' hmem
      · rintro rfl
        rw [← List.mem_singleton.1 hmem] at hlisting
        cases hlisting
    rw [← hend] at hnames
    obtain ⟨pre, reader, post, hsplit, hpost, hread⟩ := readIn_of_names? hall hoff rfl hnames
    have hlast : after post (after (pre ++ [reader]) start) = t := by
      rw [← after_append, List.append_assoc, List.singleton_append, ← hsplit, hend]
    obtain ⟨since, hsince⟩ := exists_log_after post (after (pre ++ [reader]) start)
    refine ⟨pre, reader, post, since, hsplit, hpost, hread, hlast ▸ hsince, fun hC => ?_⟩
    -- the statement was answered over an open connection
    obtain ⟨_, _, _, _, hsent, _⟩ := hread
    rw [← hlast]
    exact isConnected_after_iff hC (hsent.connected hC) hsince
  · intro more again hforget hagain
    rw [show after more t = ((after more t).1, (after more t).2) from rfl, perform_listing hagain,
      run_recollect_known _ (names?_after hforget hnames)]
    rfl

/-- The names of the tables as a backend answers them. -/
def tableRows : Handle :=
  .buffered (.ofRows [.named "table"] [[.text "users"]])

/-- A session that keeps no results, and a backend with a table. -/
def listedStart : Session (Logged Scripted) × World Script :=
  (create (ConnectionConfig.ofKind "mock") (Logged.untouched (Scripted.ofDialect .mysql)),
    ⟨.empty, { (default : Script) with replies := [⟨"SHOW TABLES", 0, some tableRows⟩] }⟩)

/-- The tables are listed, and the connection is closed and opened again. -/
def reopenedRun : List Operation :=
  [.tables false, .close, .reconnect]

/-- The names are answered again, and were read before the connection was closed. -/
theorem names_outlive_connections_reopened :
    ∃ t pre reader post since,
      (ConnectionConfig.ofKind "mock").cacheOn = false ∧
      (∀ op ∈ reopenedRun, op ≠ .setCaching true) ∧
      Operation.listing? (after reopenedRun listedStart).1 (.tables false) = some .tables ∧
      (perform (.tables false) : Action (Session (Logged Scripted)) Script Answer).run
        (after reopenedRun listedStart) = (.ok (.names ["users"]), t) ∧
      reopenedRun ++ [.tables false] = pre ++ reader :: post ∧
      Listing.tables.ReadBy Script ["users"] (after pre listedStart).1
        (after (pre ++ [reader]) listedStart).1 ∧
      t.1.conn.log = (after (pre ++ [reader]) listedStart).1.conn.log ++ since := by
  have hops : ∀ op ∈ reopenedRun, op ≠ .setCaching true := by decide
  have hanswer : ((perform (.tables false) : Action (Session (Logged Scripted)) Script Answer).run
      (after reopenedRun listedStart)).1 = .ok (.names ["users"]) := by
    decide +kernel
  obtain ⟨t, hr⟩ := Action.exists_run_eq hanswer
  have hlisting : Operation.listing? (after reopenedRun listedStart).1 (.tables false) =
      some .tables := rfl
  obtain ⟨pre, reader, post, since, hsplit, -, hread, hsince, -⟩ :=
    ((names_outlive_connections rfl _ _ hops).2 _ _ _ _ hlisting hr).1
  exact ⟨t, pre, reader, post, since, rfl, hops, hlisting, hr, hsplit, hread, hsince⟩

/-- So a listing may answer over one connection with names that were read over another, which was
closed before this one was opened. -/
theorem names_outlive_connections_stale :
    let s := after reopenedRun listedStart
    let r := (perform (.tables false) :
      Action (Session (Logged Scripted)) Script Answer).run s
    r.1 = .ok (.names ["users"]) ∧ r.2.1.isConnected = true ∧
      r.2.1.conn.log.map LogEntry.event =
        [⟨.connect, true⟩, ⟨.setCharset "utf8" "utf8_general_ci", true⟩,
          ⟨.execute "SHOW TABLES", true⟩, ⟨.close, true⟩, ⟨.connect, true⟩,
          ⟨.setCharset "utf8" "utf8_general_ci", true⟩] := by
  decide +kernel

end SqlGateway.Session
