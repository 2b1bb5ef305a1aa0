/-!
# Transaction groups

Groups nest, but only the outermost one reaches the backend. `Transaction` counts the open levels
and remembers whether a statement has failed in the group; it decides what the outermost level does,
and the session does it.

Main definitions:

* `Transaction.enterOuter`, `Transaction.enterInner`: opening a level.
* `Transaction.leave`: closing a level.
* `Transaction.markFailed`: a statement was rejected.
-/

namespace SqlGateway

/-- How closing a level ended. -/
inductive TransactionOutcome where
  | committed
  /-- A failure was recorded, or the group was a test. -/
  | rolledBack
  /-- An inner level closed; nothing reached the backend. -/
  | nested
  /-- The session does not use transactions. -/
  | disabled
  /-- No level was open. -/
  | inactive
  deriving DecidableEq, Repr

def TransactionOutcome.isSuccess : TransactionOutcome → Bool
  | rolledBack => false
  | _ => true

def TransactionOutcome.name : TransactionOutcome → String
  | committed => "Committed"
  | rolledBack => "RolledBack"
  | nested => "Nested"
  | disabled => "Disabled"
  | inactive => "Inactive"

structure Transaction where
  /-- The number of open levels. -/
  depth : Nat
  failed : Bool
  enabled : Bool
  /-- A failure outlasts the group that recorded it. -/
  strict : Bool
  deriving DecidableEq, Repr

namespace Transaction

def initial (enabled strict : Bool) : Transaction :=
  ⟨0, false, enabled, strict⟩

def isOpen (t : Transaction) : Bool :=
  t.depth > 0

/-- Opens the outermost level. A test group counts as failed from the start. -/
def enterOuter (t : Transaction) (test : Bool) : Transaction :=
  { t with depth := 1, failed := test || (t.strict && t.failed) }

/-- Opens an inner level. -/
def enterInner (t : Transaction) : Transaction :=
  { t with depth := t.depth + 1 }

/-- Closes a level, and says what that means for the backend. -/
def leave (t : Transaction) : TransactionOutcome × Transaction :=
  match t.depth with
  | 0 => (.inactive, t)
  | 1 =>
    if t.failed then (.rolledBack, { t with depth := 0, failed := t.strict })
    else (.committed, { t with depth := 0 })
  | depth + 2 => (.nested, { t with depth := depth + 1 })

theorem depth_leave (t : Transaction) : t.leave.2.depth = t.depth - 1 := by
  unfold leave
  split
  · simp [*]
  · split <;> simp [*]
  · simp [*]

/-- Only the outermost level reaches the backend. -/
theorem leave_nested {t : Transaction} (h : 1 < t.depth) : t.leave.1 = .nested := by
  unfold leave
  split
  · omega
  · omega
  · rfl

/-- Remembers a failure while a level is open. -/
def markFailed (t : Transaction) : Transaction :=
  if t.isOpen then { t with failed := true } else t

@[simp]
theorem depth_markFailed (t : Transaction) : t.markFailed.depth = t.depth := by
  rw [markFailed]
  split <;> rfl

end Transaction

end SqlGateway
