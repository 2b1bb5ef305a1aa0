import SqlGateway.OrderedMap
import SqlGateway.Query.Terms
import SqlGateway.Text.Pieces

/-!
# Clauses

The clauses of a statement under construction, one list for each kind. Two sets of clauses can be
laid one over the other (`Clauses.mergedOver`): each list is that of the lower set followed by that
of the upper one, without what occurs twice.
-/

namespace SqlGateway

/-- A condition with what joins it to the one before. The first condition has no connector. -/
structure Fragment where
  connector : Option Connector
  text : String
  deriving DecidableEq, Repr

/-- A column of the select list, which is protected when the statement is compiled. -/
structure SelectItem where
  text : String
  /-- Whether to quote it, if the caller has said. -/
  quoting : Option Bool
  deriving DecidableEq, Repr

structure Clauses where
  select : List SelectItem
  tables : List String
  joins : List String
  wheres : List Fragment
  likes : List Fragment
  groups : List String
  havings : List Fragment
  orders : List String
  /-- Protected columns with the literals they are set to. -/
  assignments : OrderedMap String
  aliases : List String
  deriving DecidableEq

namespace Fragment

/-- The text of a condition that is not the first. -/
def joined (f : Fragment) : String :=
  (f.connector.getD .and).word ++ " " ++ f.text

/-- The texts of conditions, the first without a connector. -/
def render : List Fragment → List String
  | [] => []
  | f :: fs => f.text :: fs.map joined

@[simp]
theorem length_render (fs : List Fragment) : (render fs).length = fs.length := by
  cases fs <;> simp [render]

theorem render_eq_nil_iff {fs : List Fragment} : render fs = [] ↔ fs = [] := by
  cases fs <;> simp [render]

end Fragment

namespace Clauses

def empty : Clauses :=
  ⟨[], [], [], [], [], [], [], [], .empty, []⟩

/-- The items of both lists, the lower first, each once. -/
def mergedLists {α : Type} [BEq α] (upper lower : List α) : List α :=
  (lower ++ upper).eraseDups

/-- The clauses laid over others. Assignments of the upper set replace those of the lower one. -/
def mergedOver (upper lower : Clauses) : Clauses where
  select := mergedLists upper.select lower.select
  tables := mergedLists upper.tables lower.tables
  joins := mergedLists upper.joins lower.joins
  wheres := mergedLists upper.wheres lower.wheres
  likes := mergedLists upper.likes lower.likes
  groups := mergedLists upper.groups lower.groups
  havings := mergedLists upper.havings lower.havings
  orders := mergedLists upper.orders lower.orders
  assignments := lower.assignments.overlay upper.assignments
  aliases := mergedLists upper.aliases lower.aliases

/-- The clauses without those that a read uses. -/
def afterRead (c : Clauses) : Clauses :=
  { Clauses.empty with assignments := c.assignments }

/-- The clauses without those that a write uses. -/
def afterWrite (c : Clauses) : Clauses :=
  { c with tables := [], wheres := [], likes := [], orders := [], assignments := .empty }

/-! ## Conditions -/

/-- The conditions as they follow WHERE, those on patterns last. -/
def conditions (c : Clauses) : List String :=
  let wheres := Fragment.render c.wheres
  let likes := Fragment.render c.likes
  match wheres, likes with
  | [], likes => likes
  | wheres, [] => wheres
  | wheres, like :: likes => wheres ++ ("AND " ++ like) :: likes

/-- The text after WHERE in a select. -/
def conditionText (c : Clauses) : String :=
  Text.join " " (Fragment.render c.wheres) ++
    (if c.likes.isEmpty then ""
      else (if c.wheres.isEmpty then "" else " AND ") ++ Text.join " " (Fragment.render c.likes))

end Clauses

end SqlGateway
