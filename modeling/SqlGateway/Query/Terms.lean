import SqlGateway.Text.Blank
import SqlGateway.Text.Pieces

/-!
# Terms of a query

The words by which callers choose a join, an aggregate, the wildcards of a pattern or an order, and
the SQL words they stand for.
-/

namespace SqlGateway

/-- What joins a condition to the one before it. -/
inductive Connector where
  | and
  | or
  deriving DecidableEq, Repr

def Connector.word : Connector → String
  | .and => "AND"
  | .or => "OR"

inductive JoinKind where
  | inner
  | left
  | right
  | outer
  | leftOuter
  | rightOuter
  deriving DecidableEq, Repr

namespace JoinKind

def words : JoinKind → String
  | inner => "INNER"
  | left => "LEFT"
  | right => "RIGHT"
  | outer => "OUTER"
  | leftOuter => "LEFT OUTER"
  | rightOuter => "RIGHT OUTER"

def all : List JoinKind :=
  [inner, left, right, outer, leftOuter, rightOuter]

/-- Reads a kind of join, blanks and case aside. -/
def parse? (text : String) : Option JoinKind :=
  let words := Text.upper (Text.join " " ((Chars.words text.toList).map String.ofList))
  all.find? fun kind => kind.words = words

end JoinKind

inductive Aggregate where
  | max
  | min
  | avg
  | sum
  deriving DecidableEq, Repr

namespace Aggregate

def word : Aggregate → String
  | max => "MAX"
  | min => "MIN"
  | avg => "AVG"
  | sum => "SUM"

def all : List Aggregate :=
  [max, min, avg, sum]

def parse? (text : String) : Option Aggregate :=
  all.find? fun kind => kind.word = Text.upper (Text.trim text)

end Aggregate

/-- Where the wildcards of a pattern stand. -/
inductive LikeSide where
  | before
  | after
  | both
  | none
  deriving DecidableEq, Repr

namespace LikeSide

/-- Any text but the names of the other sides means both. -/
def parse (text : String) : LikeSide :=
  let name := Text.lower (Text.trim text)
  if name = "before" then before
  else if name = "after" then after
  else if name = "none" then none
  else both

/-- The pattern around an escaped text. -/
def pattern (side : LikeSide) (escaped : String) : String :=
  match side with
  | before => "%" ++ escaped
  | after => escaped ++ "%"
  | both => "%" ++ escaped ++ "%"
  | none => escaped

end LikeSide

inductive OrderDirection where
  | asc
  | desc
  /-- The rows come in random order, whatever the column. -/
  | random
  deriving DecidableEq, Repr

namespace OrderDirection

/-- A blank text means no direction; any text but the names of the other directions means
ascending. -/
def parse? (text : String) : Option OrderDirection :=
  let name := Text.upper (Text.trim text)
  if name = "" then none
  else if name = "RANDOM" then some random
  else if name = "DESC" then some desc
  else some asc

def word : OrderDirection → String
  | asc => "ASC"
  | desc => "DESC"
  | random => ""

end OrderDirection

end SqlGateway
