import SqlGateway.Backend.Scripted
import SqlGateway.Proofs.Query.Standing
import SqlGateway.Proofs.Session.Sent
import SqlGateway.Proofs.Sql.Swapping

/-!
# Terminal calls

A terminal call of a builder compiles one statement and sends it. On the way to the backend the
statement goes through the swap of the prefix and through nothing else: where the swap finds nothing
to replace, what is sent is what was compiled. Around a literal the swap may replace what it finds;
the literal itself is safe if the stand-in is not found in it.

Main definitions:

* `Terminal`: the calls that read, insert and update.
* `Terminal.compiled`: the statement of a call, or why there is none.
* `PrefixSwap.Idle`, `PrefixSwap.Spares`: the swap leaves a statement alone, or a literal in it.

Main results:

* `Terminal.sends_compiled`: what a terminal call sends, and which values can be read back from it.
-/

namespace SqlGateway

open Text (Stands Unquoted)

/-! ## What the swap leaves alone -/

namespace PrefixSwap

/-- The swap has nothing to replace in the statement. -/
def Idle (tablePrefix standIn sql : String) : Prop :=
  tablePrefix = "" ∨ standIn = "" ∨ tablePrefix = standIn ∨ ¬FoundIn standIn.toList sql.toList

/-- The swap does not touch the literal, whatever it replaces around it. -/
structure Spares (tablePrefix standIn literal : String) : Prop where
  quotes : '\x27' ∉ standIn.toList ∧ '\x27' ∉ tablePrefix.toList
  dollar : '$' ∉ tablePrefix.toList
  absent : ¬FoundIn standIn.toList literal.toList

/-- A literal that the swap spares still stands in the statement when it is sent. -/
theorem stands_apply {tablePrefix standIn body sql : String}
    (hspares : Spares tablePrefix standIn (Text.inQuotes body))
    (h : Stands (Text.inQuotes body) sql) :
    Stands (Text.inQuotes body) (apply tablePrefix standIn sql) := by
  have hliteral : (Text.inQuotes body).toList = '\x27' :: (body.toList ++ ['\x27']) := by
    simp [Text.inQuotes]
  obtain ⟨before, after, hsql, hafter⟩ := h
  rw [hliteral] at hsql
  obtain ⟨before', after', hsent, hafter'⟩ := apply_around hspares.quotes.1 hspares.quotes.2
    hspares.dollar hsql hafter (hliteral ▸ hspares.absent)
  exact ⟨before', after', by rw [hsent, hliteral], hafter'⟩

end PrefixSwap

/-! ## Texts that are not blank -/

theorem Text.isBlank_append (s t : String) :
    Text.isBlank (s ++ t) = (Text.isBlank s && Text.isBlank t) := by
  unfold Text.isBlank
  rw [String.toList_append, List.all_append]

theorem Statement.isBlank_insertText {verb : String} (hverb : Text.isBlank verb = false)
    (s : InsertStatement) : Text.isBlank (insertText verb s) = false := by
  unfold insertText
  simp only [Text.isBlank_append, hverb, Bool.false_and]

theorem Dialect.isBlank_updateText (d : Dialect) (s : UpdateStatement) :
    Text.isBlank (d.updateText s) = false := by
  have hupdate : Text.isBlank "UPDATE " = false := by decide
  unfold updateText
  split
  · split <;> simp only [Text.isBlank_append, hupdate, Bool.false_and]
  · simp only [Text.isBlank_append, hupdate, Bool.false_and]

/-! ## Writes of assignments -/

namespace Builder

/-- A statement of the assignments and the table, both of which a write needs. -/
def assigning (style : Style) (b : Builder) (table? : Option String)
    (text : List (String × String) → String → String) : Except Refusal String := do
  let assignments ← b.needAssignments
  let table ← b.target style table?
  return text assignments table

variable {style : Style} {b : Builder} {table? : Option String}
  {text : List (String × String) → String → String}

theorem assigning_eq_ok {sql : String} (h : b.assigning style table? text = .ok sql) :
    ∃ table, sql = text b.live.assignments.entries table := by
  unfold assigning needAssignments at h
  split at h
  · cases h
  · cases htable : b.target style table? with
    | error r =>
      rw [htable] at h
      cases h
    | ok table =>
      rw [htable] at h
      exact ⟨table, (Except.ok.inj h).symm⟩

/-- A plan that asks for the assignments and the table is refused where the statement is. -/
theorem orRefused_assigning (text : List (String × String) → String → String)
    (next : String → Plan) :
    (Plan.orRefused b.needAssignments b fun assignments =>
      Plan.orRefused (b.target style table?) b fun table => next (text assignments table)) =
        Plan.orRefused (b.assigning style table? text) b next := by
  unfold assigning
  cases b.needAssignments with
  | error r => rfl
  | ok assignments => cases b.target style table? <;> rfl

end Builder

/-! ## Calls -/

/-- The calls that read by the clauses of a builder, and that insert and update by them. -/
inductive Terminal where
  | get (table? : Option String) (limit? offset? : Option Nat)
  | insert (table? : Option String)
  | update (table? condition? : Option String) (limit? : Option Nat)
  deriving DecidableEq, Repr

namespace Terminal

/-- The builder that the call compiles from. An insert takes the live clauses alone. -/
def source (style : Style) (b : Builder) : Terminal → Builder
  | get table? limit? offset? =>
    let b := b.fromArgument style table?
    { b with limit := limit? <|> b.limit, offset := offset? <|> b.offset }
  | insert _ => b
  | update _ condition? limit? => (b.merge.whereArgument condition?).limitArgument limit?

/-- The statement that the call compiles, or why there is none. -/
def compiled (style : Style) (b : Builder) (call : Terminal) : Except Refusal String :=
  let source := call.source style b
  match call with
  | get .. => .ok (source.compile style).1
  | insert table? => b.assigning style table? fun assignments table =>
    style.dialect.insertText ⟨table, assignments.map Prod.fst, [assignments.map Prod.snd]⟩
  | update table? .. => b.merge.assigning style table? fun assignments table =>
    style.dialect.updateText
      ⟨table, assignments, source.live.conditions, source.live.orders, source.limit⟩

/-- The texts of the builder in which values stand: conditions and what is assigned. -/
def parts (style : Style) (b : Builder) (call : Terminal) : List String :=
  let source := call.source style b
  match call with
  | get .. => source.merge.selectParts
  | insert _ => b.live.assignments.entries.map Prod.snd
  | update .. => b.merge.live.assignments.entries.map Prod.snd ++ source.live.conditionTexts

variable {style : Style} {b : Builder} {call : Terminal}

/-- Every part stands in the statement. -/
theorem stands_compiled {sql part : String} (hsql : call.compiled style b = .ok sql)
    (hpart : part ∈ call.parts style b) : Stands part sql := by
  cases call with
  | get table? limit? offset? =>
    obtain rfl := Except.ok.inj hsql
    exact Builder.stands_selectText hpart
  | insert table? =>
    obtain ⟨table, rfl⟩ := Builder.assigning_eq_ok hsql
    exact Dialect.stands_insertText (List.mem_singleton_self _) hpart
  | update table? condition? limit? =>
    obtain ⟨table, rfl⟩ := Builder.assigning_eq_ok hsql
    exact Dialect.stands_updateText hpart

/-- A compiled statement begins with a keyword. -/
theorem isBlank_compiled {sql : String} (hsql : call.compiled style b = .ok sql) :
    Text.isBlank sql = false := by
  cases call with
  | get table? limit? offset? =>
    obtain rfl := Except.ok.inj hsql
    unfold Builder.compile Builder.selectText Builder.selectHead
    rw [Text.isBlank_append, Text.isBlank_append, Bool.and_assoc]
    refine Bool.and_eq_false_imp.2 fun h => absurd h (Bool.eq_false_iff.1 ?_)
    split <;> decide
  | insert table? =>
    obtain ⟨table, rfl⟩ := Builder.assigning_eq_ok hsql
    exact Statement.isBlank_insertText (by decide) _
  | update table? condition? limit? =>
    obtain ⟨table, rfl⟩ := Builder.assigning_eq_ok hsql
    exact Dialect.isBlank_updateText _ _

/-! ### Runs -/

variable {C E : Type} [Connection C] [Backend C E]

/-- The call, its result aside. -/
def perform : Terminal → Action (Database C) E Unit
  | get table? limit? offset? => do
    let _ ← Database.read fun style b => b.get style table? limit? offset?
  | insert table? => do
    let _ ← Database.write fun style b => b.insert style table?
  | update table? condition? limit? => do
    let _ ← Database.write fun style b => b.update style table? condition? limit?

theorem insert_eq (style : Style) (b : Builder) (table? : Option String) :
    b.insert style table? = .orRefused ((insert table?).compiled style b) b fun sql =>
      .sending [sql] b.afterWrite :=
  Builder.orRefused_assigning
    (fun assignments table => style.dialect.insertText
      ⟨table, assignments.map Prod.fst, [assignments.map Prod.snd]⟩)
    fun sql => .sending [sql] b.afterWrite

theorem update_eq (style : Style) (b : Builder) (table? condition? : Option String)
    (limit? : Option Nat) :
    b.update style table? condition? limit? =
      .orRefused ((update table? condition? limit?).compiled style b) b.merge fun sql =>
        .sending [sql] ((update table? condition? limit?).source style b).afterWrite :=
  let source := (update table? condition? limit?).source style b
  Builder.orRefused_assigning
    (fun assignments table => style.dialect.updateText
      ⟨table, assignments, source.live.conditions, source.live.orders, source.limit⟩)
    fun sql => .sending [sql] source.afterWrite

open Session (SentOnce)

/-- What was compiled is sent, with the prefix in its place. -/
theorem sentOnce_perform (s : Session (Traced C)) (b : Builder) (w : World E) {sql : String}
    (hsql : call.compiled ⟨s.dialect, s.rules⟩ b = .ok sql) :
    let r := (call.perform : Action (Database (Traced C)) E Unit).run (⟨s, some b⟩, w)
    SentOnce (PrefixSwap.apply s.config.tablePrefix s.config.swapPrefix sql) s w r.1
      r.2.1.session := by
  intro r
  have hblank := isBlank_compiled hsql
  cases call with
  | get table? limit? offset? =>
    have hread := Database.sentOnce_read (E := E)
      (fun style b => b.get style table? limit? offset?) s b w (Except.ok.inj hsql) hblank
    have hr : r = _ := Action.run_bind_pure_apply _ (fun _ => ()) _
    rw [hr]
    dsimp only
    exact hread.map _
  | insert table? =>
    have hplan : b.insert ⟨s.dialect, s.rules⟩ table? = .sending [sql] b.afterWrite := by
      rw [insert_eq, hsql]
      rfl
    have hr : r = _ := Action.run_bind_pure_apply _ (fun _ => ()) _
    rw [hr]
    dsimp only
    exact (Database.sentOnce_write _ s b w hplan hblank).map _
  | update table? condition? limit? =>
    have hplan := update_eq ⟨s.dialect, s.rules⟩ b table? condition? limit?
    rw [hsql] at hplan
    have hr : r = _ := Action.run_bind_pure_apply _ (fun _ => ()) _
    rw [hr]
    dsimp only
    exact (Database.sentOnce_write _ s b w hplan hblank).map _

/-- A call without a statement fails as misuse, and the session stays as it is. -/
theorem refused_perform (s : Session (Traced C)) (b : Builder) (w : World E) {refusal : Refusal}
    (hrefused : call.compiled ⟨s.dialect, s.rules⟩ b = .error refusal) :
    let r := (call.perform : Action (Database (Traced C)) E Unit).run (⟨s, some b⟩, w)
    r.1 = .error (s.upgrade refusal.error) ∧ r.2.1.session = s := by
  intro r
  -- the builder may have merged its snapshot before it refused, so only the session is the same
  have hwrite (f : Style → Builder → Plan) {after : Builder}
      (hplan : f ⟨s.dialect, s.rules⟩ b = .refused refusal after) :
      (Database.write f : Action (Database (Traced C)) E Nat).run (⟨s, some b⟩, w) =
        (.error (s.upgrade refusal.error), ⟨s, some after⟩, w) := by
    rw [Database.run_write, hplan]
    rfl
  have hanswer (a : Action (Database (Traced C)) E Nat) (t : Database (Traced C) × World E) :
      (do let _ ← a : Action (Database (Traced C)) E Unit).run t = _ :=
    Action.run_bind_pure_apply a (fun _ => ()) t
  cases call with
  | get table? limit? offset? => cases hrefused
  | insert table? =>
    have hplan := insert_eq ⟨s.dialect, s.rules⟩ b table?
    rw [hrefused] at hplan
    have hr : r = _ := hanswer _ _
    rw [hr, hwrite _ hplan]
    exact ⟨rfl, rfl⟩
  | update table? condition? limit? =>
    have hplan := update_eq ⟨s.dialect, s.rules⟩ b table? condition? limit?
    rw [hrefused] at hplan
    have hr : r = _ := hanswer _ _
    rw [hr, hwrite _ hplan]
    exact ⟨rfl, rfl⟩

/-- **Terminals send what they compile.** The statement that a call compiles is sent, once and
alone, with the prefix in the place of its stand-in; where the swap has nothing to replace, it is
sent as it was compiled. What stands between quotes in the clauses stays whole in any case if the
stand-in is not found there, and a value is read back from its literal. -/
theorem sends_compiled (s : Session (Traced C)) (b : Builder) (w : World E) (call : Terminal) :
    let style : Style := ⟨s.dialect, s.rules⟩
    let tablePrefix := s.config.tablePrefix
    let standIn := s.config.swapPrefix
    let r := (call.perform : Action (Database (Traced C)) E Unit).run (⟨s, some b⟩, w)
    (∀ refusal, call.compiled style b = .error refusal →
      r.1 = .error (s.upgrade refusal.error) ∧ r.2.1.session = s) ∧
    ∀ sql, call.compiled style b = .ok sql →
      let sent := PrefixSwap.apply tablePrefix standIn sql
      SentOnce sent s w r.1 r.2.1.session ∧
      (PrefixSwap.Idle tablePrefix standIn sql → sent = sql) ∧
      ∀ part ∈ call.parts style b, ∀ body, Stands (Text.inQuotes body) part →
        PrefixSwap.Idle tablePrefix standIn sql ∨
          PrefixSwap.Spares tablePrefix standIn (Text.inQuotes body) →
        Stands (Text.inQuotes body) sent ∧
          ∀ value, s.dialect.escape value = body → s.dialect.ReadsIn value sent := by
  intro style tablePrefix standIn r
  refine ⟨fun refusal hrefused => refused_perform s b w hrefused, fun sql hsql => ?_⟩
  intro sent
  have hidle (h : PrefixSwap.Idle tablePrefix standIn sql) : sent = sql :=
    PrefixSwap.apply_eq_self h
  refine ⟨sentOnce_perform s b w hsql, hidle, fun part hpart body hliteral hsafe => ?_⟩
  have hcompiled : Stands (Text.inQuotes body) sql :=
    hliteral.trans (stands_compiled hsql hpart)
  have hsent : Stands (Text.inQuotes body) sent := by
    rcases hsafe with h | h
    · rwa [hidle h]
    · exact PrefixSwap.stands_apply h hcompiled
  refine ⟨hsent, ?_⟩
  rintro value rfl
  exact Dialect.readsIn_of_stands hsent

/-- Settings with a prefix and a stand-in for it. -/
def swappingSession : Session (Traced Scripted) :=
  .create { ConnectionConfig.ofKind "mock" with tablePrefix := "app_", swapPrefix := "tbl_" }
    (Traced.untouched (Scripted.ofDialect .mysql))

def swappingStyle : Style :=
  ⟨swappingSession.dialect, swappingSession.rules⟩

/-- A condition that the caller has written with the stand-in. -/
def rawCondition : Builder :=
  Builder.empty.whereRaw .and "tbl_t.id = 1"

/-- The same with a condition on a value. -/
def rawAndValue : Builder :=
  rawCondition.whereValue swappingStyle .and "name" (.text "it's")

/-- The stand-in is replaced in the condition of the caller, and the value comes through. -/
theorem sends_compiled_spared :
    let call := get (some "t") none none
    let sent := "SELECT * FROM `app_t` WHERE app_t.id = 1 AND `name` = 'it\\'s'"
    let r := (call.perform : Action (Database (Traced Scripted)) Script Unit).run
      (⟨swappingSession, some rawAndValue⟩, ⟨.empty, default⟩)
    call.compiled swappingStyle rawAndValue =
        .ok "SELECT * FROM `app_t` WHERE tbl_t.id = 1 AND `name` = 'it\\'s'" ∧
      SentOnce sent swappingSession (⟨.empty, default⟩ : World Script) r.1 r.2.1.session ∧
      Dialect.mysql.ReadsIn "it's" sent := by
  intro call sent
  dsimp only
  have hcompiled : call.compiled swappingStyle rawAndValue =
      .ok "SELECT * FROM `app_t` WHERE tbl_t.id = 1 AND `name` = 'it\\'s'" :=
    congrArg Except.ok (by decide +kernel)
  have hpart : rawCondition.condition swappingStyle "name" (.text "it's") ∈
      call.parts swappingStyle rawAndValue := by
    decide +kernel
  have hliteral := Builder.stands_condition swappingStyle rawCondition "name" "it's"
  have hspares : PrefixSwap.Spares "app_" "tbl_" (Text.inQuotes "it\\'s") := by
    refine ⟨by decide, by decide, ?_⟩
    rintro ⟨before, c, d, after, hfound, -, -⟩
    have hmem : 'b' ∈ (Text.inQuotes "it\\'s").toList := by
      rw [hfound]
      simp
    revert hmem
    decide
  obtain ⟨-, hsent⟩ := sends_compiled swappingSession rawAndValue
    (⟨.empty, default⟩ : World Script) call
  obtain ⟨honce, -, hread⟩ := hsent _ hcompiled
  have happly : PrefixSwap.apply swappingSession.config.tablePrefix
      swappingSession.config.swapPrefix
      "SELECT * FROM `app_t` WHERE tbl_t.id = 1 AND `name` = 'it\\'s'" = sent := by
    decide +kernel
  have hvalue := (hread _ hpart _ hliteral (.inr hspares)).2 "it's" rfl
  rw [happly] at honce hvalue
  exact ⟨hcompiled, honce, hvalue⟩

/-- The stand-in in a condition of the caller is still in the statement that is compiled, and not in
the one that is sent. -/
theorem sends_compiled_swapped :
    let call := get (some "t") none none
    let r := (call.perform : Action (Database (Traced Scripted)) Script Unit).run
      (⟨swappingSession, some rawCondition⟩, ⟨.empty, default⟩)
    call.compiled swappingStyle rawCondition = .ok "SELECT * FROM `app_t` WHERE tbl_t.id = 1" ∧
      r.2.1.session.conn.events.filterMap BackendEvent.statement? =
        ["SELECT * FROM `app_t` WHERE app_t.id = 1"] :=
  ⟨congrArg Except.ok (by decide +kernel), by decide +kernel⟩

end Terminal

end SqlGateway
