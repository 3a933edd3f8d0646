import Std.Time.DateTime.Timestamp
import ChainElection.CommandLine.Program
import ChainElection.CommandLine.StoreText

/-!
The voter's program on a real terminal.

Words, environment, clock and the file of the store are taken from the system;
all that is decided is decided by `CommandLine.runOn`. The program has no
network of its own: every connection breaks.
-/

namespace ChainElection.Terminal

/-- The variables that the program looks at. -/
def variableNames : List String :=
  ["ELECTION_NODE_URL", "ELECTION_BACKEND_URL", "ELECTION_WALLET_URL", "ELECTION_CONTRACT",
    "ELECTION_CONTRACT_NAME", "ELECTION_NETWORK", "ELECTION_POLL_INTERVAL_MS",
    "ELECTION_MAX_VERIFICATION_POLLS", "ELECTION_REQUEST_TIMEOUT_SECS", "ELECTION_STORE_PATH",
    "ELECTION_MAX_RESOURCE_KB", "ELECTION_ACCOUNT"]

/-- The environment. -/
def environment : IO Environment :=
  variableNames.filterMapM fun name => do
    pure ((← IO.getEnv name).map fun value => (name, value))

/-- The present. -/
def present : IO ClockTime := do
  let t ← Std.Time.Timestamp.now
  pure (((Instant.ofMilliseconds? t.toMillisecondsSinceUnixEpoch.val).bind ClockTime.of?).getD default)

/-- Reads the store. A file that is not there is an empty store. -/
def load (path : String) : IO StoreFile := do
  match ← (IO.FS.readFile path).toBaseIO with
  | .ok s =>
    match StoreText.read s with
    | .ok t => pure (.database { SubmissionDatabase.fresh with texts := some t })
    | .error _ => pure .foreign
  | .error (.noFileOrDirectory ..) => pure default
  | .error _ => pure .foreign

/-- Writes the store, and says whether that could be done. -/
def save (path : String) (d : SubmissionDatabase) : IO Bool := do
  match ← (IO.FS.writeFile path (StoreText.write (d.texts.getD .empty))).toBaseIO with
  | .ok () => pure true
  | .error _ => pure false

/-- The circumstances: everything happens now, and no monitor takes a turn before it is waited for. -/
def circumstances : IO Circumstances := do
  let now ← present
  pure ⟨default, 1000, now, now⟩

/-- Prints what the program leaves behind, and gives its number. -/
def finish (o : CommandLine.Outcome) : IO UInt32 := do
  for line in o.printed do
    IO.println line
  if let some f := o.fault then
    IO.eprintln s!"Error: {f.message}"
  pure (UInt32.ofNat o.exit)

/-- Runs the program with words that make sense. -/
def runLine (env : Environment) (c : CommandLine) : IO UInt32 := do
  let path := (c.settings env).storePath
  match ((← load path).opened false).1 with
  | .error e => finish (.withoutStore e)
  | .ok d =>
    let w := CommandLine.surroundings Exchange.refusing (← circumstances) env c
    let (o, _) := (CommandLine.runOn w c d false).run ()
    if ← save path (o.database.getD d) then finish o else finish (.withoutStore .storage)

/-- Runs the program. -/
def run (words : List String) : IO UInt32 := do
  let env ← environment
  match CommandLine.read env words with
  | .ok c => runLine env c
  | .error .helpWanted =>
    let names := ", ".intercalate CommandLine.commandNames
    IO.println s!"commands: {names}"
    pure 0
  | .error f =>
    IO.eprintln s!"error: {f.message}"
    pure 2

end ChainElection.Terminal

/-- The voter's program. -/
def main (words : List String) : IO UInt32 := ChainElection.Terminal.run words
