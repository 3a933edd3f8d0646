import ChainElection.Bytes.Order
import ChainElection.Files.Path
import ChainElection.Table

/-!
A file system: directories, regular files, links and other things at places.

A place is the list of names from the root. Walking along a path follows the
links that it meets, at most forty of them, and needs a directory wherever the
path goes on, which may be searched. The last step may lead to something that is
not there.

* `FileSystem.walk` finds the place of a path; `FileSystem.inspect` says what
  is there, following a link at the end or not.
* `FileSystem.makeDirectory`, `FileSystem.makeDirectories` add one directory,
  or all that are missing on the way.
* `FileSystem.listing` shows what stands below the place where one is.
-/

namespace ChainElection

/-- A place: the names that lead there from the root. -/
abbrev Place : Type := List String

/-- What can stand at a place; regular files have contents. A guarded directory is one in which nothing can
be made, and which may be searched or not. -/
inductive FileNode (α : Type) where
  | directory
  | guarded (searchable : Bool)
  | regular (content : α)
  | link (target : Path)
  | special
  deriving DecidableEq

/-- Is it a directory? -/
def FileNode.isDirectory {α : Type} : FileNode α → Bool
  | .directory => true
  | .guarded _ => true
  | _ => false

/-- Why a path leads nowhere, or why nothing can be made there. -/
inductive FileFault where
  | missing
  | notDirectory
  | denied
  | tooLong
  | tooManyLinks
  | exists
  deriving DecidableEq, Repr

/-- A file system: what stands at its places, and the place where one is. -/
structure FileSystem (α : Type) where
  nodes : Table Place (FileNode α)
  current : Place

namespace FileSystem

variable {α : Type}

/-- What stands at a place. The root is always there. -/
def node? (fs : FileSystem α) (p : Place) : Option (FileNode α) :=
  if p = [] then some ((fs.nodes.get? []).getD .directory) else fs.nodes.get? p

/-- Is this a directory that may not be searched? -/
def isClosed (fs : FileSystem α) (p : Place) : Bool :=
  match fs.node? p with
  | some (.guarded false) => true
  | _ => false

/-- Puts something at a place. -/
def put (fs : FileSystem α) (p : Place) (n : FileNode α) : FileSystem α :=
  { fs with nodes := fs.nodes.set p n }

/-- Where a path starts. -/
def start (fs : FileSystem α) (p : Path) : Place := if p.isAbsolute then [] else fs.current

/-- How many links can be followed on the way. -/
def maxLinks : Nat := 40

/-- Goes on from a place, with a number of links left to follow. -/
def walkFrom (fs : FileSystem α) (follow : Bool) (links : Nat) (place : Place) :
    List String → Except FileFault Place
  | [] => .ok place
  | step :: rest =>
    if step = Path.slash then fs.walkFrom follow links place rest
    else if fs.isClosed place then .error .denied
    else if step = Path.here then fs.walkFrom follow links place rest
    else if step = Path.up then fs.walkFrom follow links place.dropLast rest
    else if Path.maxNameSize < Path.nameSize step then .error .tooLong
    else
      let next := place ++ [step]
      match fs.node? next with
      | none => if rest = [] then .ok next else .error .missing
      | some (.link target) =>
        if rest = [] ∧ follow = false then .ok next
        else
          match links with
          | 0 => .error .tooManyLinks
          | links + 1 =>
            fs.walkFrom follow links (if target.isAbsolute then [] else place)
              (target.steps ++ rest)
      | some node =>
        if node.isDirectory then fs.walkFrom follow links next rest
        else if rest = [] then .ok next
        else .error .notDirectory
termination_by steps => (links, steps.length)

/-- The place of a path. -/
def walk (fs : FileSystem α) (follow : Bool) (p : Path) : Except FileFault Place :=
  if p.size = 0 then .error .missing
  else if Path.maxSize < p.size then .error .tooLong
  else fs.walkFrom follow maxLinks (fs.start p) p.steps

/-- What stands at the end of a path. -/
def inspect (fs : FileSystem α) (follow : Bool) (p : Path) : Except FileFault (FileNode α) :=
  match fs.walk follow p with
  | .error f => .error f
  | .ok place =>
    match fs.node? place with
    | none => .error .missing
    | some n => .ok n

/-- Does the path lead to a directory? -/
def isDirectory (fs : FileSystem α) (p : Path) : Bool :=
  match fs.inspect true p with
  | .ok node => node.isDirectory
  | .error _ => false

/-! ### Listing -/

/-- How a node is shown behind its name. -/
def mark : FileNode α → String
  | .directory => "/"
  | .guarded _ => "/"
  | .link _ => "@"
  | _ => ""

/-- What stands below the place where one is: the way there and a mark, in the order of the texts. -/
def listing (fs : FileSystem α) : List String :=
  let below := fs.nodes.entries.filterMap fun (p, n) =>
    if fs.current.isPrefixOf p && p.length ≠ fs.current.length then
      some ("/".intercalate (p.drop fs.current.length) ++ mark n)
    else none
  below.mergeSort fun a b => Bytes.le (Utf8.ofString a) (Utf8.ofString b)

/-! ### Making directories -/

/-- Makes a directory. -/
def makeDirectory (fs : FileSystem α) (p : Path) : Except FileFault (FileSystem α) :=
  match fs.walk false p with
  | .error f => .error f
  | .ok place =>
    match fs.node? place with
    | some _ => .error .exists
    | none =>
      match fs.node? place.dropLast with
      | some .directory => .ok (fs.put place .directory)
      | _ => .error .denied

/-- Makes a directory and those above it that are missing, given its names from the last to the first, each
with the size of the path up to it. If one cannot be made, those above it stay. -/
def makeDirectories (fs : FileSystem α) (isAbsolute : Bool) :
    List (String × Nat) → Except FileFault Unit × FileSystem α
  | [] => (.ok (), fs)
  | (name, size) :: above =>
    let p : Path := ⟨isAbsolute, (above.map Prod.fst).reverse ++ [name], size⟩
    let settle (fs : FileSystem α) (made : Except FileFault (FileSystem α)) :
        Except FileFault Unit × FileSystem α :=
      match made with
      | .ok fs => (.ok (), fs)
      | .error f => if fs.isDirectory p then (.ok (), fs) else (.error f, fs)
    match fs.makeDirectory p with
    | .error .missing =>
      match fs.makeDirectories isAbsolute above with
      | (.error f, fs) => (.error f, fs)
      | (.ok (), fs) => settle fs (fs.makeDirectory p)
    | made => settle fs made

end FileSystem

end ChainElection
