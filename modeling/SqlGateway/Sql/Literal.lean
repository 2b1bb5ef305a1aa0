import SqlGateway.Sql.Dialect
import SqlGateway.Value

/-!
# Literals

Values as they stand in a statement. Text goes between single quotes, bytes are written in
hexadecimal, and a number that is not finite has no literal and becomes NULL.
-/

namespace SqlGateway

/-- The literal of a value. -/
def Dialect.literal (d : Dialect) : Value → String
  | .null => "NULL"
  | .bool b => if b then "1" else "0"
  | .int n => (Decimal.Numeral.ofInt n.toInt).text
  | .real x => if x.isFinite then Value.realText x else "NULL"
  | .text s => "'" ++ d.escape s ++ "'"
  | .bytes bs => "X'" ++ Hex.ofBytes true bs ++ "'"

end SqlGateway
