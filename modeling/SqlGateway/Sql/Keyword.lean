import SqlGateway.Text.Blank
import SqlGateway.Text.Pieces

/-!
# Kinds of statements

A statement that begins with one of `writeKeywords` changes data or the schema.
-/

namespace SqlGateway.Statement

def writeKeywords : List String := [
  "SET", "INSERT", "UPDATE", "DELETE", "REPLACE", "CREATE", "DROP", "TRUNCATE", "ALTER", "GRANT",
  "REVOKE", "LOCK", "UNLOCK"]

/-- The text begins with the keyword and a blank. -/
def beginsWith (keyword : String) (text : List Char) : Bool :=
  match Chars.afterLetters? keyword.toList text with
  | some (c :: _) => Chars.isBlank c
  | _ => false

/-- Blanks and one quotation mark may stand before the keyword. -/
def isWriteText (text : List Char) : Bool :=
  -- an opening quotation mark need not be closed
  let start := match text.dropWhile Chars.isBlank with
    | '"' :: rest => rest
    | rest => rest
  writeKeywords.any fun keyword => beginsWith keyword start

/-- The statement changes data or the schema. -/
def isWrite (sql : String) : Bool :=
  isWriteText sql.toList

end SqlGateway.Statement
