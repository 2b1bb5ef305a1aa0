import SqlGateway.Result.Cursor

/-!
# Cursors as a list and a position

A cursor makes up to four forms of its rows, each when it is first asked for and some of them from
another one, takes them from a handle that has a position of its own, and may be cut off from that
handle at any time. None of this shows: whatever is asked of it, and in whatever order, its replies
are those of one fixed list of rows and one position in that list.

Main definitions:

* `Cursor.Call`, `Cursor.perform`, `Cursor.run`: what can be asked of a cursor.
* `Cursor.Page`: a list of rows under columns, with a position; it keeps nothing back.
* `Cursor.Shows`: the cursor has taken the rows of a page, and what it keeps was made of them.

Main results:

* `Cursor.Shows.perform`: each call keeps a cursor in step with its page.
* `Cursor.replies_of_page`: a cursor on buffered rows or a snapshot replies like a page, over every
  run of calls.
-/

namespace SqlGateway.Cursor

/-! ## Calls -/

/-- A type that rows are read as, with what reads it. -/
structure RowKind where
  Row : Type
  named : RowType Row
  read : Json → Option Row

attribute [instance] RowKind.named

inductive Call where
  | rows
  | records
  | row (n : Nat)
  | record (n : Nat)
  /-- A column of the first row. -/
  | value (column : String)
  | typedRows (kind : RowKind)
  | typedRow (kind : RowKind) (n : Nat)
  | snapshot
  | first
  | last
  | next
  | previous
  /-- The number of the current row. -/
  | current
  | free

inductive Reply where
  | rows (rows : List Row)
  | records (records : List Record)
  | row (row? : Option Row)
  | record (record? : Option Record)
  | value (value? : Option Value)
  | typedRows (kind : RowKind) (outcome : Except DbError (List kind.Row))
  | typedRow (kind : RowKind) (outcome : Except DbError (Option kind.Row))
  | snapshot (s : Snapshot)
  | place (n : Nat)
  | freed

/-- A reply with the cursor after it. -/
def replying {α : Type} (reply : α → Reply) (answer : α × Cursor) : Reply × Cursor :=
  (reply answer.1, answer.2)

def perform (c : Cursor) : Call → Reply × Cursor
  | .rows => replying .rows c.rows
  | .records => replying .records c.records
  | .row n => replying .row (c.row? n)
  | .record n => replying .record (c.record? n)
  | .value column => replying .value (c.value? column)
  | .typedRows kind => replying (.typedRows kind) (c.decodeAll kind.read)
  | .typedRow kind n => replying (.typedRow kind) (c.decodeRow kind.read n)
  | .snapshot => replying .snapshot c.toSnapshot
  | .first => replying .row c.first
  | .last => replying .row c.last
  | .next => replying .row c.next
  | .previous => replying .row c.previous
  | .current => (.place c.current, c)
  | .free => (.freed, c.free)

/-- Calls one after the other. -/
def run (c : Cursor) : List Call → List Reply × Cursor
  | [] => ([], c)
  | call :: calls =>
    let (reply, c) := c.perform call
    let (replies, c) := c.run calls
    (reply :: replies, c)

/-! ## Pages -/

/-- A list of rows with a position. -/
@[ext]
structure Page where
  columns : List String
  rows : List (List Value)
  position : Nat

namespace Page

def objects (p : Page) : List Row :=
  p.rows.map fun values => ⟨p.columns, values⟩

def maps (p : Page) : List Record :=
  p.objects.map Row.toRecord

/-- The page after a call. Only four calls move the position, and none changes the rows. -/
def after (p : Page) : Call → Page
  | .first => { p with position := 0 }
  | .last => { p with position := p.rows.length - 1 }
  | .next =>
    { p with position := if p.position + 1 < p.rows.length then p.position + 1 else p.position }
  | .previous => { p with position := p.position - 1 }
  | _ => p

/-- The reply that a page has for a call; for one that moves it, when it has been moved. -/
def reply (p : Page) : Call → Reply
  | .rows => .rows p.objects
  | .records => .records p.maps
  | .row n => .row p.objects[n]?
  | .record n => .record p.maps[n]?
  | .value column => .value (p.maps.head?.bind fun r => r.get? column)
  | .typedRows kind => .typedRows kind (p.maps.mapM (decode kind.read))
  | .typedRow kind n =>
    .typedRow kind (p.maps[n]?.elim (.ok none) fun r => (decode kind.read r).map some)
  | .snapshot => .snapshot ⟨p.columns, p.rows, p.rows.length⟩
  | .first | .last | .next | .previous => .row p.objects[p.position]?
  | .current => .place p.position
  | .free => .freed

def run (p : Page) : List Call → List Reply × Page
  | [] => ([], p)
  | call :: calls =>
    let (replies, q) := (p.after call).run calls
    ((p.after call).reply call :: replies, q)

/-- The position is that of a row, or the beginning. -/
def Within (p : Page) : Prop :=
  p.position = 0 ∨ p.position < p.rows.length

@[simp]
theorem rows_after (p : Page) (call : Call) : (p.after call).rows = p.rows := by
  cases call <;> rfl

@[simp]
theorem columns_after (p : Page) (call : Call) : (p.after call).columns = p.columns := by
  cases call <;> rfl

@[simp]
theorem objects_after (p : Page) (call : Call) : (p.after call).objects = p.objects := by
  simp [objects]

@[simp]
theorem maps_after (p : Page) (call : Call) : (p.after call).maps = p.maps := by
  simp [maps]

@[simp]
theorem rows_run (p : Page) (calls : List Call) : (p.run calls).2.rows = p.rows := by
  induction calls generalizing p with
  | nil => rfl
  | cons call calls ih => simp [run, ih]

/-- The position never leaves the rows. -/
theorem Within.after {p : Page} (h : p.Within) (call : Call) : (p.after call).Within := by
  unfold Within at h ⊢
  cases call with
  | next =>
    dsimp only [Page.after]
    split <;> omega
  | first | last | previous =>
    dsimp only [Page.after]
    omega
  | _ => exact h

/-- Where there are no rows, nothing moves. -/
theorem Within.after_of_rows_eq_nil {p : Page} (h : p.Within) (hrows : p.rows = []) (call : Call) :
    p.after call = p := by
  have hstart {q : Page} (hq : q.Within) (hqrows : q.rows = []) : q.position = 0 := by
    simpa [Within, hqrows] using hq
  refine Page.ext (columns_after p call) (rows_after p call) ?_
  rw [hstart h hrows, hstart (h.after call) ((rows_after p call).trans hrows)]

theorem Within.run {p : Page} (h : p.Within) (calls : List Call) : (p.run calls).2.Within := by
  induction calls generalizing p with
  | nil => exact h
  | cons call calls ih => exact ih (h.after call)

end Page

/-! ## Cursors that have taken their rows -/

/-- The cursor has taken the rows of the page, and stands at its position. All else that it keeps was
made of these rows. -/
structure Shows (c : Cursor) (p : Page) : Prop where
  columns : c.columns = p.columns
  current : c.current = p.position
  taken : c.taken = some p.rows
  mapped : ∀ records, c.mapped = some records → records = p.maps
  typed : ∀ name records, c.typed.get? name = some records → records = p.maps
  lead : ∀ r, c.lead = some r → p.maps.head? = some r

namespace Shows

variable {c : Cursor} {p : Page}

theorem valueRows (h : Shows c p) : c.valueRows = (p.rows, c) := by
  simp [Cursor.valueRows, h.taken]

theorem rows (h : Shows c p) : c.rows = (p.objects, c) := by
  simp [Cursor.rows, h.valueRows, h.columns, Page.objects]

theorem row? (h : Shows c p) (n : Nat) : c.row? n = (p.objects[n]?, c) := by
  simp [Cursor.row?, h.rows]

/-- To make the maps, or to find them made, is the same to the page. -/
theorem records (h : Shows c p) : c.records.1 = p.maps ∧ Shows c.records.2 p := by
  unfold Cursor.records
  cases hmapped : c.mapped with
  | some records => exact ⟨h.mapped records hmapped, h⟩
  | none =>
    simp only [h.rows]
    -- only what is kept as maps has changed
    exact ⟨rfl, { h with mapped := fun records hr => (Option.some.inj hr).symm }⟩

theorem record? (h : Shows c p) (n : Nat) :
    (c.record? n).1 = p.maps[n]? ∧ Shows (c.record? n).2 p := by
  obtain ⟨hmaps, hshows⟩ := h.records
  simp only [Cursor.record?, hmaps]
  exact ⟨trivial, hshows⟩

/-- Without rows there is no first one to keep, and it is looked for again the next time. -/
theorem keepLead (h : Shows c p) : c.keepLead.lead = p.maps.head? ∧ Shows c.keepLead p := by
  unfold Cursor.keepLead
  cases hlead : c.lead with
  | some r => exact ⟨hlead.trans (h.lead r hlead).symm, h⟩
  | none =>
    obtain ⟨hfirst, hshows⟩ := h.record? 0
    rw [← List.head?_eq_getElem?] at hfirst
    exact ⟨hfirst, { hshows with lead := fun r hr => hfirst.symm.trans hr }⟩

theorem value? (h : Shows c p) (column : String) :
    (c.value? column).1 = (p.maps.head?.bind fun r => r.get? column) ∧
      Shows (c.value? column).2 p := by
  obtain ⟨hlead, hshows⟩ := h.keepLead
  simp only [Cursor.value?, hlead]
  exact ⟨trivial, hshows⟩

/-- Rows that are kept for a type are read from the maps that they were read from the first time. -/
theorem decodeAll {α : Type} [RowType α] (h : Shows c p) (read : Json → Option α) :
    (c.decodeAll read).1 = p.maps.mapM (decode read) ∧ Shows (c.decodeAll read).2 p := by
  unfold Cursor.decodeAll
  dsimp only
  split
  · next records hkept =>
    rw [h.typed _ records hkept]
    exact ⟨rfl, h⟩
  · obtain ⟨hmaps, hshows⟩ := h.records
    rw [hmaps]
    split
    · next rows hread =>
      refine ⟨hread.symm, { hshows with typed := fun name records hkept => ?_ }⟩
      -- the entry that was put in now, or one that was there before
      rw [OrderedMap.get?_insert] at hkept
      split at hkept
      · exact (Option.some.inj hkept).symm
      · exact hshows.typed name records hkept
    · next e hread => exact ⟨hread.symm, hshows⟩

theorem decodeRow {α : Type} (h : Shows c p) (read : Json → Option α) (n : Nat) :
    (c.decodeRow read n).1 =
        p.maps[n]?.elim (.ok none) (fun r => (decode read r).map some) ∧
      Shows (c.decodeRow read n).2 p := by
  obtain ⟨hfound, hshows⟩ := h.record? n
  simp only [Cursor.decodeRow, hfound]
  cases p.maps[n]? <;> exact ⟨rfl, hshows⟩

/-- A move to a place in the rows. Where there are none, the position is at the beginning and stays
there. -/
theorem move (h : Shows c p) (hwithin : p.Within) (place : Nat → Nat → Nat) (call : Call)
    (hcall : (p.after call).position = place p.position p.rows.length) :
    (c.move place).1 = (p.after call).objects[(p.after call).position]? ∧
      Shows (c.move place).2 (p.after call) := by
  have hlength : p.objects.length = p.rows.length := List.length_map _
  unfold Cursor.move
  simp only [h.rows, h.current, hlength]
  split
  · next hnone =>
    have hrows : p.rows = [] := List.map_eq_nil_iff.1 (List.isEmpty_iff.1 hnone)
    rw [hwithin.after_of_rows_eq_nil hrows]
    exact ⟨by simp [Page.objects, hrows], h⟩
  · have hmoved : Shows { c with current := place p.position p.rows.length } (p.after call) :=
      { h with
        columns := h.columns.trans (Page.columns_after p call).symm
        current := hcall.symm
        taken := h.taken.trans (congrArg some (Page.rows_after p call).symm)
        mapped := by simpa using h.mapped
        typed := by simpa using h.typed
        lead := by simpa using h.lead }
    rw [hmoved.row?, ← hcall]
    exact ⟨rfl, hcall ▸ hmoved⟩

/-- Every call keeps a cursor in step with its page. -/
theorem perform (h : Shows c p) (hwithin : p.Within) (call : Call) :
    (c.perform call).1 = (p.after call).reply call ∧ Shows (c.perform call).2 (p.after call) := by
  cases call with
  | rows =>
    simp only [Cursor.perform, h.rows]
    exact ⟨rfl, h⟩
  | records =>
    obtain ⟨hreply, hshows⟩ := h.records
    exact ⟨congrArg Reply.records hreply, hshows⟩
  | row n =>
    simp only [Cursor.perform, h.row?]
    exact ⟨rfl, h⟩
  | record n =>
    obtain ⟨hreply, hshows⟩ := h.record? n
    exact ⟨congrArg Reply.record hreply, hshows⟩
  | value column =>
    obtain ⟨hreply, hshows⟩ := h.value? column
    exact ⟨congrArg Reply.value hreply, hshows⟩
  | typedRows kind =>
    obtain ⟨hreply, hshows⟩ := h.decodeAll kind.read
    exact ⟨congrArg (Reply.typedRows kind) hreply, hshows⟩
  | typedRow kind n =>
    obtain ⟨hreply, hshows⟩ := h.decodeRow kind.read n
    exact ⟨congrArg (Reply.typedRow kind) hreply, hshows⟩
  | snapshot =>
    simp only [Cursor.perform, Cursor.toSnapshot, h.valueRows, replying, h.columns]
    exact ⟨rfl, h⟩
  | first =>
    obtain ⟨hreply, hshows⟩ := h.move hwithin (fun _ _ => 0) .first rfl
    exact ⟨congrArg Reply.row hreply, hshows⟩
  | last =>
    obtain ⟨hreply, hshows⟩ := h.move hwithin (fun _ count => count - 1) .last rfl
    exact ⟨congrArg Reply.row hreply, hshows⟩
  | next =>
    obtain ⟨hreply, hshows⟩ := h.move hwithin
      (fun n count => if n + 1 < count then n + 1 else n) .next rfl
    exact ⟨congrArg Reply.row hreply, hshows⟩
  | previous =>
    obtain ⟨hreply, hshows⟩ := h.move hwithin (fun n _ => n - 1) .previous rfl
    exact ⟨congrArg Reply.row hreply, hshows⟩
  | current => exact ⟨congrArg Reply.place h.current, h⟩
  -- what was taken from the source does not go with it
  | free => exact ⟨rfl, { h with }⟩

theorem run (h : Shows c p) (hwithin : p.Within) (calls : List Call) :
    (c.run calls).1 = (p.run calls).1 ∧ Shows (c.run calls).2 (p.run calls).2 := by
  induction calls generalizing c p with
  | nil => exact ⟨rfl, h⟩
  | cons call calls ih =>
    obtain ⟨hreply, hshows⟩ := h.perform hwithin call
    obtain ⟨hreplies, hend⟩ := ih hshows (hwithin.after call)
    exact ⟨by simp only [Cursor.run, Page.run, hreply, hreplies], hend⟩

end Shows

/-! ## Cursors that have taken nothing yet -/

/-- The call needs the rows. -/
def Call.takesRows : Call → Bool
  | .current | .free => false
  | _ => true

/-- The rows that calls see of those that a source has: all of them, or none if the source is
released before they are needed. -/
def rowsSeen (rows : List (List Value)) : List Call → List (List Value)
  | [] => rows
  | .free :: _ => []
  | call :: calls => if call.takesRows then rows else rowsSeen rows calls

theorem rowsSeen_nil (calls : List Call) : rowsSeen [] calls = [] := by
  induction calls with
  | nil => rfl
  | cons call calls ih => cases call <;> simp [rowsSeen, ih]

section

variable (source : Source) (columns : List String) (numRows : Nat)

/-- To take the rows is all that a new cursor does before it shows them. -/
theorem shows_ofSource :
    Shows (ofSource source columns numRows).valueRows.2 ⟨columns, source.takeRows.1, 0⟩ where
  columns := columns_valueRows _
  current := rfl
  taken := rfl
  mapped _ hr := nomatch hr
  typed _ _ hr := nomatch hr
  lead _ hr := nomatch hr

/-- Every call that needs the rows takes them first. -/
theorem perform_valueRows_ofSource {call : Call} (hcall : call.takesRows = true) :
    (ofSource source columns numRows).valueRows.2.perform call =
      (ofSource source columns numRows).perform call := by
  cases call <;> first | rfl | cases hcall

theorem run_valueRows_ofSource {call : Call} (hcall : call.takesRows = true) (calls : List Call) :
    (ofSource source columns numRows).valueRows.2.run (call :: calls) =
      (ofSource source columns numRows).run (call :: calls) := by
  unfold Cursor.run
  rw [perform_valueRows_ofSource source columns numRows hcall]

/-- A new cursor replies like a page, whatever comes after the calls. -/
theorem run_ofSource (calls rest : List Call) :
    let p : Page := ⟨columns, rowsSeen source.takeRows.1 (calls ++ rest), 0⟩
    ((ofSource source columns numRows).run calls).1 = (p.run calls).1 ∧
      ((ofSource source columns numRows).run calls).2.current = (p.run calls).2.position := by
  induction calls generalizing source with
  | nil => exact ⟨rfl, rfl⟩
  | cons call calls ih =>
    by_cases htakes : call.takesRows = true
    · -- from this call on the cursor has its rows
      have hseen : rowsSeen source.takeRows.1 (call :: calls ++ rest) = source.takeRows.1 := by
        cases call <;> first | rfl | cases htakes
      obtain ⟨hreplies, hend⟩ :=
        (shows_ofSource source columns numRows).run (.inl rfl) (call :: calls)
      rw [run_valueRows_ofSource source columns numRows htakes] at hreplies hend
      rw [hseen]
      exact ⟨hreplies, hend.current⟩
    · cases call with
      | current =>
        obtain ⟨hreplies, hcurrent⟩ := ih source
        exact ⟨congrArg (Reply.place 0 :: ·) hreplies, hcurrent⟩
      | free =>
        -- a released source has no rows, and what comes later does not bring them back
        obtain ⟨hreplies, hcurrent⟩ := ih .freed
        rw [show Source.freed.takeRows.1 = [] from rfl, rowsSeen_nil] at hreplies hcurrent
        exact ⟨congrArg (Reply.freed :: ·) hreplies, hcurrent⟩
      | _ => exact absurd rfl htakes

end

/-! ## Cursors on buffered rows -/

/-- What a cursor is made of: rows in memory, wherever they were read up to, or a snapshot. -/
inductive Origin where
  | buffered (b : BufferedRows)
  | detached (s : Snapshot)

namespace Origin

def cursor : Origin → Cursor
  | buffered b => ofHandle (.buffered b)
  | detached s => ofSnapshot s

def columns : Origin → List String
  | buffered b => b.columns.map Column.name
  | detached s => s.columns

def rows : Origin → List (List Value)
  | buffered b => b.rows
  | detached s => s.rows

theorem exists_ofSource (o : Origin) :
    ∃ source numRows, o.cursor = ofSource source o.columns numRows ∧ source.takeRows.1 = o.rows := by
  cases o with
  | buffered b =>
    refine ⟨.live (.buffered b), b.rows.length, rfl, ?_⟩
    -- the handle goes back to the first row before it is read
    simp [Source.takeRows, Handle.seek, BufferedRows.seek, Handle.drain, rows]
  | detached s => exact ⟨.detached s.rows, s.numRows, rfl, rfl⟩

end Origin

/-- **Cursors are a list and a position.** Over every run of calls, a cursor on buffered rows or on a
snapshot gives the replies of a page with the rows of its origin, or with none if it was released
before it needed them. At each moment its current row is the position of the page, whose rows stay
the same, and that position is the beginning or the place of a row. -/
theorem replies_of_page (origin : Origin) (calls : List Call) :
    let page : Page := ⟨origin.columns, rowsSeen origin.rows calls, 0⟩
    (origin.cursor.run calls).1 = (page.run calls).1 ∧
      ∀ before, before <+: calls →
        (origin.cursor.run before).2.current = (page.run before).2.position ∧
        (page.run before).2.rows = page.rows ∧
        ((page.run before).2.position = 0 ∨ (page.run before).2.position < page.rows.length) := by
  obtain ⟨source, numRows, hcursor, hrows⟩ := origin.exists_ofSource
  intro page
  rw [hcursor]
  refine ⟨?_, ?_⟩
  · have hreplies := (run_ofSource source origin.columns numRows calls []).1
    rwa [List.append_nil, hrows] at hreplies
  · rintro before ⟨rest, rfl⟩
    have hcurrent := (run_ofSource source origin.columns numRows before rest).2
    rw [hrows] at hcurrent
    have hsame : (page.run before).2.rows = page.rows := page.rows_run before
    have hwithin : (page.run before).2.Within := Page.Within.run (.inl rfl) before
    unfold Page.Within at hwithin
    rw [hsame] at hwithin
    exact ⟨hcurrent, hsame, hwithin⟩

/-- Two rows under a name that stands twice, walked over the end; the source is released on the way. -/
example :
    let origin : Origin := .buffered (.ofRows [.named "x", .named "x"]
      [[.bool true, .null], [.null, .bool false]])
    (origin.cursor.run [.next, .free, .next, .value "x", .current, .previous]).1 =
      [.row (some ⟨["x", "x"], [.null, .bool false]⟩), .freed,
        .row (some ⟨["x", "x"], [.null, .bool false]⟩), .value (some .null), .place 1,
        .row (some ⟨["x", "x"], [.bool true, .null]⟩)] :=
  rfl

end SqlGateway.Cursor
