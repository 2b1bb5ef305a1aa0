import SqlGateway.Query.Clauses
import SqlGateway.Sql.Dialect
import SqlGateway.Sql.Identifier

/-!
# Builders

A builder gathers the clauses of the next statement. It has live clauses, which the next statement
uses up, and a snapshot, which takes part in every statement until it is flushed; while the builder
is caching, new clauses go into both.

Main definitions:

* `Builder.add`: a clause goes into the live clauses and, while caching, into the snapshot.
* `Builder.merge`: the snapshot is laid under the live clauses.
* `Builder.afterRead`, `Builder.afterWrite`: what is left after a statement.
-/

namespace SqlGateway

/-- How a connection writes statements. -/
structure Style where
  dialect : Dialect
  rules : Identifier.Rules
  deriving DecidableEq, Repr

structure Builder where
  live : Clauses
  snapshot : Clauses
  /-- New clauses also go into the snapshot. -/
  caching : Bool
  distinct : Bool
  limit : Option Nat
  offset : Option Nat
  /-- Rows for the next batch: protected columns with literals. -/
  batch : List (List (String × String))
  /-- The protected column that tells the rows of a batch update apart. -/
  batchIndex : Option String
  deriving DecidableEq

namespace Builder

def empty : Builder :=
  ⟨.empty, .empty, false, false, none, none, [], none⟩

instance : Inhabited Builder :=
  ⟨empty⟩

/-! ## Clauses -/

/-- Changes the live clauses and, while caching, the snapshot. -/
def add (b : Builder) (f : Clauses → Clauses) : Builder :=
  { b with live := f b.live, snapshot := if b.caching then f b.snapshot else b.snapshot }

/-- A fragment at the end of a list. It has no connector if neither the live clauses nor the
snapshot have such a fragment. -/
def fragment (b : Builder) (list : Clauses → List Fragment) (connector : Connector)
    (text : String) : Fragment :=
  ⟨if (list b.live).isEmpty && (list b.snapshot).isEmpty then none else some connector, text⟩

def addSelect (b : Builder) (item : SelectItem) : Builder :=
  b.add fun c => { c with select := c.select ++ [item] }

def addTable (b : Builder) (table : String) : Builder :=
  b.add fun c => { c with tables := c.tables ++ [table] }

def addJoin (b : Builder) (text : String) : Builder :=
  b.add fun c => { c with joins := c.joins ++ [text] }

def addWhere (b : Builder) (connector : Connector) (text : String) : Builder :=
  let f := b.fragment Clauses.wheres connector text
  b.add fun c => { c with wheres := c.wheres ++ [f] }

def addLike (b : Builder) (connector : Connector) (text : String) : Builder :=
  let f := b.fragment Clauses.likes connector text
  b.add fun c => { c with likes := c.likes ++ [f] }

def addGroup (b : Builder) (column : String) : Builder :=
  b.add fun c => { c with groups := c.groups ++ [column] }

def addHaving (b : Builder) (connector : Connector) (text : String) : Builder :=
  let f := b.fragment Clauses.havings connector text
  b.add fun c => { c with havings := c.havings ++ [f] }

def addOrder (b : Builder) (text : String) : Builder :=
  b.add fun c => { c with orders := c.orders ++ [text] }

def addAssignment (b : Builder) (column literal : String) : Builder :=
  b.add fun c => { c with assignments := c.assignments.insert column literal }

/-- Each alias is kept once. -/
def addAlias (b : Builder) (name : String) : Builder :=
  b.add fun c =>
    if c.aliases.contains name then c else { c with aliases := c.aliases ++ [name] }

/-- Every alias that is known. -/
def aliases (b : Builder) : List String :=
  Clauses.mergedLists b.live.aliases b.snapshot.aliases

/-! ## Identifiers -/

/-- An identifier with its prefix and quotes. -/
def protect (style : Style) (b : Builder) (bareIsTable : Bool) (quoting : Option Bool)
    (endsInColumn : Bool) (item : String) : String :=
  style.rules.protect ⟨b.aliases, bareIsTable, quoting, endsInColumn⟩ item

def column (style : Style) (b : Builder) (item : String) : String :=
  b.protect style false none true item

/-- A table, whose path names no column. -/
def table (style : Style) (b : Builder) (item : String) : String :=
  b.protect style true none false item

/-! ## The snapshot -/

def startCache (b : Builder) : Builder :=
  { b with caching := true }

def stopCache (b : Builder) : Builder :=
  { b with caching := false }

/-- Empties the snapshot; a builder that is caching goes on doing so. -/
def flushCache (b : Builder) : Builder :=
  { b with snapshot := .empty }

/-- Lays the snapshot under the live clauses. An empty snapshot leaves them as they are, with what
occurs twice in them. -/
def merge (b : Builder) : Builder :=
  if b.snapshot = .empty then b else { b with live := b.live.mergedOver b.snapshot }

/-! ## What statements use up -/

def afterRead (b : Builder) : Builder :=
  { b with live := b.live.afterRead, distinct := false, limit := none, offset := none }

def afterWrite (b : Builder) : Builder :=
  { b with
    live := b.live.afterWrite
    batch := []
    batchIndex := none
    limit := none
    offset := none }

/-- Forgets every live clause. -/
def reset (b : Builder) : Builder :=
  b.afterRead.afterWrite

end Builder

end SqlGateway
