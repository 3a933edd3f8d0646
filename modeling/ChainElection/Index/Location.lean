import ChainElection.Files.System
import ChainElection.Text.Quoted

/-!
Where the submission index is kept.

The text of the setting names a throwaway index in memory, or a regular file.
A file may not be there yet; then the directories on the way to it are made. A
link, a directory or anything else at the end of the path is refused, and so is
a path that goes up or has control characters.

* `StoreLocation.resolve` decides, and says what has become of the files.
-/

namespace ChainElection

/-- Where an index is kept. -/
inductive StoreLocation where
  | inMemory
  | file (path : String)
  deriving DecidableEq, Repr

/-- Why a text does not say where an index is kept. -/
inductive LocationFault where
  | empty
  | controlCharacter
  | climbing
  | nameless (path : String)
  | isLink (path : String)
  | notRegular (path : String)
  | noDirectory (path : String)
  deriving DecidableEq, Repr

namespace StoreLocation

/-- The name of the index in memory. -/
def memoryName : String := ":memory:"

/-- Where the index is kept if nothing is said. -/
def standard : String := "submissions.db"

/-- The name under which the location is opened. -/
def name : StoreLocation → String
  | .inMemory => memoryName
  | .file path => path

end StoreLocation

/-- What is said of the fault. -/
def LocationFault.message : LocationFault → String
  | .empty => s!"DB_PATH is empty; use {StoreLocation.memoryName} for a throwaway index"
  | .controlCharacter => "DB_PATH contains control characters"
  | .climbing => "DB_PATH must not climb out of its directory with '..'"
  | .nameless path => s!"DB_PATH {Text.quoteText path} does not name a submission index file"
  | .isLink path => s!"Submission index {Text.quoteText path} is a symlink"
  | .notRegular path => s!"Submission index {Text.quoteText path} is not a regular file"
  | .noDirectory path =>
    s!"Failed to create directory for submission index {Text.quoteText path}"

namespace StoreLocation

/-- Is the character a control code? -/
def isControl (c : Char) : Bool := c.toNat < 0x20 || (0x7f ≤ c.toNat && c.toNat ≤ 0x9f)

/-- Judges the text alone. -/
def ofText (s : String) : Except LocationFault StoreLocation :=
  if s = memoryName then .ok .inMemory
  else if s = "" then .error .empty
  else if s.toList.any isControl then .error .controlCharacter
  else if (Path.read s).climbs then .error .climbing
  else if (Path.read s).fileName?.isNone then .error (.nameless s)
  else .ok (.file s)

/-- Makes the directories on the way to what a text names, so far as they are missing. A text that starts
with a dot needs the directory where one is to be found under it, even if it has only one name. -/
def makeWay {α : Type} (fs : FileSystem α) (s : String) : Except FileFault Unit × FileSystem α :=
  if Path.startsHere s && !fs.isDirectory (Path.read Path.here) then (.error .denied, fs)
  else fs.makeDirectories (Path.read s).isAbsolute (Path.sizedNames s).dropLast.reverse

/-- Judges what stands at the end of a path, and makes the directories on the way if nothing can be
found there. -/
def prepare {α : Type} (fs : FileSystem α) (s : String) :
    Except LocationFault Unit × FileSystem α :=
  match fs.inspect false (Path.read s) with
  | .ok (.link _) => (.error (.isLink s), fs)
  | .ok (.regular _) => (.ok (), fs)
  | .ok _ => (.error (.notRegular s), fs)
  | .error _ =>
    match makeWay fs s with
    | (.ok (), fs) => (.ok (), fs)
    | (.error _, fs) => (.error (.noDirectory s), fs)

/-- Decides where the index is kept. Blanks around the text do not count. -/
def resolve {α : Type} (fs : FileSystem α) (text : String) :
    Except LocationFault StoreLocation × FileSystem α :=
  match ofText (Text.trimmed text) with
  | .error f => (.error f, fs)
  | .ok .inMemory => (.ok .inMemory, fs)
  | .ok (.file s) =>
    match prepare fs s with
    | (.error f, fs) => (.error f, fs)
    | (.ok (), fs) => (.ok (.file s), fs)

end StoreLocation

end ChainElection
