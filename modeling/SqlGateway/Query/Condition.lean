import SqlGateway.Query.Builder
import SqlGateway.Sql.Literal
import SqlGateway.Text.Blank
import SqlGateway.Text.Word

/-!
# Conditions

The texts of conditions. A key is a column, perhaps with an operator after it (`"age >"`); a key
without an operator is compared for equality, or with NULL when there is no value.

The condition of a join is a text such as `a.id = b.a_id`. `JoinCondition.split?` takes it apart
into a name, what stands between, and the rest of the line, and both sides are protected.
-/

namespace SqlGateway

/-- The key has an operator already: a comparison sign, or a blank before some word. -/
def hasOperator (key : String) : Bool :=
  (Chars.trim key.toList).any fun c => Chars.isBlank c || c = '<' || c = '>' || c = '!' || c = '='

namespace Builder

/-- The condition that a column has a value. -/
def condition (style : Style) (b : Builder) (key : String) (value : Value) : String :=
  let column := b.column style key
  if value.isNull then
    -- an operator of the caller's own is left without an operand
    if hasOperator key then column else column ++ " IS NULL"
  else
    (if hasOperator column then column else column ++ " =") ++ " " ++ style.dialect.literal value

/-- The condition that a column has one of some values. -/
def membership (style : Style) (b : Builder) (negated : Bool) (key : String)
    (values : List Value) : String :=
  b.column style key ++ (if negated then " NOT" else "") ++ " IN (" ++
    Text.join ", " (values.map style.dialect.literal) ++ ")"

/-- The condition that a column matches a pattern, whose wildcards only the side puts there. -/
def likeness (style : Style) (b : Builder) (negated : Bool) (key text : String)
    (side : LikeSide) : String :=
  b.column style key ++ (if negated then " NOT" else "") ++ " LIKE '" ++
    side.pattern (style.dialect.escapeLike text) ++ "'" ++ style.dialect.likeClause

end Builder

/-! ## Joins -/

/-- The condition of a join between two sides. -/
structure JoinCondition where
  left : List Char
  between : List Char
  right : List Char
  deriving DecidableEq, Repr

namespace JoinCondition

/-- A character of a column's name or path. -/
def isNameChar (c : Char) : Bool :=
  Chars.isWord c || c = '.'

/-- The rest of the line. -/
def line (cs : List Char) : List Char :=
  cs.takeWhile (· ≠ '\n')

/-- The longest stretch outside of words at the start of a text such that something is left on the
line, and what is left. -/
def stretch? : List Char → Option (List Char × List Char)
  | [] => none
  | c :: cs =>
    if Chars.isWord c then none
    else match stretch? cs with
      | some (more, right) => some (c :: more, right)
      | none => if (line cs).isEmpty then none else some ([c], line cs)

/-- Splits the text at its start: the longest name that such a stretch follows. The dot is a name
character and none of a word, so a name need not reach as far as it could. -/
def splitHere? : List Char → Option JoinCondition
  | [] => none
  | c :: cs =>
    if !isNameChar c then none
    else match splitHere? cs with
      | some j => some { j with left := c :: j.left }
      | none => (stretch? cs).map fun (between, right) => ⟨[c], between, right⟩

/-- Splits the text at the first place where it can be split. `inName` says that a name which cannot
be split reaches up to the start; then what is left of the name cannot be split either. -/
def splitFrom? (inName : Bool) : List Char → Option JoinCondition
  | [] => none
  | c :: cs =>
    if inName && isNameChar c then splitFrom? true cs
    else (splitHere? (c :: cs)).orElse fun _ => splitFrom? (isNameChar c) cs

/-- The first split of a text. What is outside of the three parts is lost. -/
def split? (cs : List Char) : Option JoinCondition :=
  splitFrom? false cs

/-- The condition with both sides protected. A text that cannot be split stays. -/
def render (style : Style) (b : Builder) (text : String) : String :=
  match split? text.toList with
  | none => text
  | some c =>
    b.column style (String.ofList c.left) ++ String.ofList c.between ++
      b.column style (String.ofList c.right)

end JoinCondition

end SqlGateway
