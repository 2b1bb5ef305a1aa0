import SqlGateway.Text.Pieces

/-!
# Paths

A path is a text of names between slashes. A single dot stands for the directory that it is in, two
dots for the parent of that directory.
-/

namespace SqlGateway.Path

/-- The names between slashes, empty ones included. -/
def names (path : String) : List String :=
  (Chars.splitOn '/' path.toList).map String.ofList

/-- No entry of a disk has a longer name, in bytes. -/
def maxNameSize : Nat := 255

/-- A path for which a disk can be asked: it holds no NUL and is shorter than 4096 bytes. -/
def isUsable (path : String) : Bool :=
  !path.toList.contains '\x00' && path.utf8ByteSize < 4096

/-- A name that stands for the place where it is written. -/
def isIdle (name : String) : Bool :=
  name = "" || name = "."

/-- A name inside a directory. -/
def within (directory name : String) : String :=
  if directory = "" ∨ directory.endsWith "/" then directory ++ name else directory ++ "/" ++ name

/-- The last name of a path. -/
def fileName? (path : String) : Option String :=
  match ((names path).filter fun n => !isIdle n).getLast? with
  | some ".." => none
  | name? => name?

/-- What follows the last dot of the file name, unless the dot is its first character. -/
def extension? (path : String) : Option String := do
  let name := (← fileName? path).toList
  let tail := (name.reverse.takeWhile (· ≠ '.')).reverse
  if name.length ≤ tail.length + 1 then none else some (String.ofList tail)

end SqlGateway.Path
