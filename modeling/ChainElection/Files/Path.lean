import ChainElection.Text.Blank
import ChainElection.Text.Utf8

/-!
Paths of files as they are written.

A path is a list of steps between slashes, from the root or from the directory
in which one is. A dot stays where it is, two dots go up, and a slash at the
end is a step as well, which stays where it is: what stands before a slash or a
dot has to be a directory.

* `Path.read` gives the steps of a text.
* `Path.names`, `Path.fileName?` leave out the steps that stay where they are.
* `Path.sizedNames` says how long the text is up to each of its names, and
  `Path.startsHere` whether it starts with a dot.
-/

namespace ChainElection

/-- A path: its steps, whether it starts at the root, and how many bytes it takes in writing. -/
structure Path where
  isAbsolute : Bool
  steps : List String
  size : Nat
  deriving DecidableEq

namespace Path

/-- The number of bytes that a name takes. -/
def nameSize (s : String) : Nat := s.utf8ByteSize

/-- The longest name, in bytes. -/
def maxNameSize : Nat := 255

/-- The longest path, in bytes. -/
def maxSize : Nat := 4095

/-- The step that stays where it is. -/
def here : String := "."

/-- The step that a slash at the end makes. -/
def slash : String := ""

/-- The step that goes up. -/
def up : String := ".."

/-- Does the step stay where it is? -/
def isDot (step : String) : Bool := step == here || step == slash

/-- The parts of a text between its slashes. -/
def parts (s : String) : List String := (Text.splitOn '/' s.toList).map String.ofList

/-- Reads a path. -/
def read (s : String) : Path where
  isAbsolute := s.toList.head? == some '/'
  steps := (parts s).filter (· ≠ "") ++ (if s.toList.getLast? = some '/' then [slash] else [])
  size := s.utf8ByteSize

/-- The names among parts of a text, each with the size of the text up to it, where the text in front of
the parts has a size itself. -/
def sizedFrom (size : Nat) : List String → List (String × Nat)
  | [] => []
  | part :: rest =>
    let upTo := size + nameSize part
    if isDot part then sizedFrom (upTo + 1) rest else (part, upTo) :: sizedFrom (upTo + 1) rest

/-- The names in a text, each with the size of the text up to it. -/
def sizedNames (s : String) : List (String × Nat) := sizedFrom 0 (parts s)

/-- Does the text start with a dot, from where one is? -/
def startsHere (s : String) : Bool := (parts s).head? == some here

/-- The path from names without dots. -/
def ofNames (isAbsolute : Bool) (names : List String) : Path where
  isAbsolute := isAbsolute
  steps := names
  size := (if isAbsolute then 1 else 0) + (names.foldr (fun s n => nameSize s + n) 0 + (names.length - 1))

/-- The steps that do not stay where they are. -/
def names (p : Path) : List String := p.steps.filter fun step => !isDot step

/-- Does the path go up anywhere? -/
def climbs (p : Path) : Bool := p.steps.contains up

/-- The name that the path ends with, if it ends with one. -/
def fileName? (p : Path) : Option String :=
  match p.names.getLast? with
  | none => none
  | some n => if n = up then none else some n

end Path

end ChainElection
