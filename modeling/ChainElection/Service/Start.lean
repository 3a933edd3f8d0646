import ChainElection.Client.Settings
import ChainElection.Files.Database
import ChainElection.Index.Location
import ChainElection.Service.Answer

/-!
Starting the service.

The environment says where the index is kept and which token lets one write to
it; an empty token is none. The index is opened and its tables are brought up
to date before the service listens.

* `SubmissionService.start` starts it, or says why it cannot.
* `SubmissionService.save` is what its files are after it has answered.
-/

namespace ChainElection

/-- Why the service cannot start. -/
inductive StartFault where
  | location (f : LocationFault)
  | unopenable (path : String)
  | unmigratable
  deriving DecidableEq, Repr

/-- What is said of the fault. -/
def StartFault.message : StartFault → String
  | .location f => f.message
  | .unopenable path => s!"unable to open database file: {path}"
  | .unmigratable => "unable to migrate the database"

namespace SubmissionService

/-- The files in which indexes are kept. -/
abbrev IndexFiles : Type := FileSystem IndexDatabase

/-- Opens the index at a location. -/
def openLocation (fs : IndexFiles) : StoreLocation → Option DatabaseHandle × IndexFiles
  | .inMemory => (some .transient, fs)
  | .file path => fs.openDatabase path

/-- Opens the index of a setting and brings it up to date. -/
def openIndex (fs : IndexFiles) (setting : String) :
    Except StartFault (DatabaseHandle × IndexDatabase) × IndexFiles :=
  match StoreLocation.resolve fs setting with
  | (.error f, fs) => (.error (.location f), fs)
  | (.ok location, fs) =>
    match openLocation fs location with
    | (none, fs) => (.error (.unopenable location.name), fs)
    | (some h, fs) =>
      let (migrated, d) := (fs.contentOf h).migrate
      let fs := fs.writeContent h d
      match migrated with
      | .error _ => (.error .unmigratable, fs)
      | .ok () => (.ok (h, d), fs)

/-- The token that an environment gives. -/
def tokenOf (env : Environment) : Option String :=
  match env.lookup "INGEST_TOKEN" with
  | some t => if t = "" then none else some t
  | none => none

/-- Starts the service. -/
def start (fs : IndexFiles) (env : Environment) (build : BuildInfo) :
    Except StartFault (DatabaseHandle × SubmissionService) × IndexFiles :=
  match openIndex fs ((env.lookup "DB_PATH").getD StoreLocation.standard) with
  | (.error f, fs) => (.error f, fs)
  | (.ok (h, d), fs) => (.ok (h, ⟨d, tokenOf env, build⟩), fs)

/-- The files after the service has answered. -/
def save (s : SubmissionService) (fs : IndexFiles) (h : DatabaseHandle) : IndexFiles :=
  fs.writeContent h s.database

end SubmissionService

end ChainElection
