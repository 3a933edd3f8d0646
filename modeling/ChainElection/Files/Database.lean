import ChainElection.Files.System
import ChainElection.Text.Percent

/-!
Opening a database by its name.

The name of a database is a path, the word for a database in memory, or an
address of the scheme `file` that may say in which mode the file is opened. A
path is resolved step by step, links included, into a place that has to be a
regular file in a directory; a file that is not there is made, empty.

* `DatabaseName.read` says what a name means.
* `FileSystem.openDatabase` opens it.
-/

namespace ChainElection

/-- How a file is opened: it is made if it is missing, or it has to be there, and maybe is only read. -/
inductive OpenMode where
  | make
  | existing
  | reading
  deriving DecidableEq, Repr

/-- What the name of a database means: one that is gone when it is closed, or one in a file. -/
inductive DatabaseName where
  | transient
  | file (path : String) (mode : OpenMode)
  deriving DecidableEq, Repr

/-- A database that is open: one without a file, or the one at a place. -/
inductive DatabaseHandle where
  | transient
  | stored (place : Place)
  deriving DecidableEq, Repr

namespace DatabaseName

/-- The database of a path. The empty path names a throwaway database. -/
def ofPath (path : String) (mode : OpenMode) : DatabaseName :=
  if path = ":memory:" ∨ path = "" then .transient else .file path mode

/-- What stands before a character, if it is there, and what stands behind it. -/
def cut (c : Char) (s : List Char) : List Char × List Char :=
  match Text.splitOnce c s with
  | some p => p
  | none => (s, [])

/-- A part of an address with its percent escapes resolved, up to a NUL that is written as one. -/
def unescape (s : List Char) : Option String :=
  Utf8.toString? ((Percent.resolve s).takeWhile (· ≠ 0))

/-- The ways to reach a file that are known by name. -/
def accessNames : List String := ["unix", "unix-none", "unix-dotfile", "unix-excl", "memdb"]

/-- Takes one option of an address into account. -/
def withOption (d : DatabaseName) (key value : String) : Option DatabaseName :=
  match key, d with
  | "cache", _ => if value = "shared" ∨ value = "private" then some d else none
  | "vfs", _ =>
    if accessNames.contains value then some (if value = "memdb" then .transient else d) else none
  | "mode", .transient => if ["ro", "rw", "rwc", "memory"].contains value then some d else none
  | "mode", .file path _ =>
    if value = "ro" then some (.file path .reading)
    else if value = "rw" then some (.file path .existing)
    else if value = "rwc" then some (.file path .make)
    else if value = "memory" then some .transient
    else none
  | _, _ => some d

/-- Takes the options of an address into account, in order. -/
def withOptions (d : DatabaseName) : List (List Char) → Option DatabaseName
  | [] => some d
  | o :: r => do
    let (k, v) := cut '=' o
    let key ← unescape k
    let value ← unescape v
    (← if key = "" then some d else d.withOption key value).withOptions r

/-- What the address behind its scheme means. Only this host can be named. -/
def ofAddress (s : List Char) : Option DatabaseName :=
  let (s, _) := cut '#' s
  let local? : Option (List Char) := match s with
    | '/' :: '/' :: r =>
      let host := r.takeWhile (· ≠ '/')
      if host = [] ∨ host = "localhost".toList then some (r.dropWhile (· ≠ '/')) else none
    | s => some s
  do
    let (path, options) := cut '?' (← local?)
    (ofPath (← unescape path) .make).withOptions (Text.splitOn '&' options)

/-- What a name means, if it means anything. -/
def read (s : String) : Option DatabaseName :=
  match s.toList with
  | 'f' :: 'i' :: 'l' :: 'e' :: ':' :: r => ofAddress r
  | _ => some (ofPath s .make)

/-- Does the name say that the file is only read? -/
def onlyReads (s : String) : Bool :=
  match read s with
  | some (.file _ .reading) => true
  | _ => false

end DatabaseName

namespace FileSystem

variable {α : Type}

/-- The longest full path of a database, in bytes. -/
def maxDatabasePath : Nat := 511

/-- How many links can be followed on the way to a database. -/
def maxDatabaseLinks : Nat := 200

/-- The place that steps lead to, links included. What is missing may stay missing. -/
def settleFrom (fs : FileSystem α) (links : Nat) (place : Place) :
    List String → Option Place
  | [] => some place
  | step :: rest =>
    if Path.isDot step then fs.settleFrom links place rest
    else if step = Path.up then fs.settleFrom links place.dropLast rest
    else
      let next := place ++ [step]
      if maxDatabasePath < (Path.ofNames true next).size then none
      else
        match fs.inspect false (Path.ofNames true next) with
        | .ok (.link target) =>
          match links with
          | 0 => none
          | links + 1 =>
            fs.settleFrom links (if target.isAbsolute then [] else place) (target.steps ++ rest)
        | .ok _ => fs.settleFrom links next rest
        | .error .missing => fs.settleFrom links next rest
        | .error _ => none
termination_by steps => (links, steps.length)

/-- Opens the file of a database at a place. -/
def openPlace [Inhabited α] (fs : FileSystem α) (mode : OpenMode) (place : Place) :
    Option DatabaseHandle × FileSystem α :=
  match fs.node? place with
  | some (.regular _) => (some (.stored place), fs)
  | some _ => (none, fs)
  | none =>
    match mode, fs.node? place.dropLast with
    | .make, some .directory => (some (.stored place), fs.put place (.regular default))
    | _, _ => (none, fs)

/-- Opens a database by its name. -/
def openDatabase [Inhabited α] (fs : FileSystem α) (name : String) :
    Option DatabaseHandle × FileSystem α :=
  match DatabaseName.read name with
  | none => (none, fs)
  | some .transient => (some .transient, fs)
  | some (.file path mode) =>
    match fs.settleFrom maxDatabaseLinks (fs.start (Path.read path)) (Path.read path).steps with
    | none => (none, fs)
    | some place => if place = [] then (none, fs) else fs.openPlace mode place

/-- What a database that is open holds. -/
def contentOf [Inhabited α] (fs : FileSystem α) : DatabaseHandle → α
  | .transient => default
  | .stored place =>
    match fs.node? place with
    | some (.regular content) => content
    | _ => default

/-- Writes what a database holds. -/
def writeContent (fs : FileSystem α) (h : DatabaseHandle) (content : α) : FileSystem α :=
  match h with
  | .transient => fs
  | .stored place => fs.put place (.regular content)

end FileSystem

end ChainElection
