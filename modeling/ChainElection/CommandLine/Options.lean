import ChainElection.Chain.Contract
import ChainElection.Client.Settings
import ChainElection.CommandLine.Scan
import ChainElection.Election.Ballot
import ChainElection.Election.Tally

/-!
What the command line of the voter's program can say.

Options in front of the command override the settings of the environment; those
that the program knows by name are also looked up there, and have to make sense
wherever they come from. Behind the command stand its own options.

* `CommandLine.read` reads all words, `CommandLine.settings` is what results.
-/

namespace ChainElection

/-- What the program is told to do. -/
inductive Command where
  | view (v : View)
  | candidates
  | vote (selection : Option (List Bool)) (candidate : Option Nat) (track : Bool)
  | track
  | submissions
  deriving DecidableEq

/-- A command line. -/
structure CommandLine where
  nodeUrl : Option String
  backendUrl : Option String
  walletUrl : Option String
  contract : Option ContractAddress
  network : Option Network
  storePath : Option String
  account : Option Account
  command : Command

namespace CommandLine

/-! ### Values -/

/-- Reads an option's value if it is given, by a word or by the environment. -/
def given {α : Type} (values : List (String × String)) (env : Environment)
    (option key : String) (read : String → Option α) :
    Except ArgumentFault (Option α) :=
  match (values.lookup option).or (env.lookup key) with
  | none => .ok none
  | some s =>
    match read s with
    | none => .error (.badValue option s)
    | some a => .ok (some a)

/-- Reads a path, which may not be empty. -/
def readPath (s : String) : Option String := if s = "" then none else some s

/-- Reads the entries of a selection; the option may be given several times. -/
def selectionOf (values : List (String × String)) : Except ArgumentFault (Option (List Bool)) :=
  let texts := (values.filter fun p => p.1 == "selection").map Prod.snd
  if texts = [] then .ok none
  else
    match texts.mapM Selection.read with
    | .ok bss => .ok (some bss.flatten)
    | .error part => .error (.badValue "selection" (String.ofList part))

/-! ### Commands -/

/-- The options of the view command. -/
def viewForms : List OptionForm := [⟨"ty", none, .reading View.read?⟩]

/-- Reads the number of a candidate. -/
def readCandidate : String → Option Nat := Environment.natural Numeral.max64

/-- The options of the vote command. -/
def voteForms : List OptionForm :=
  [⟨"selection", none, .values fun s => (Selection.read s).toOption.isSome⟩,
    ⟨"candidate", none, .reading readCandidate⟩, ⟨"track", none, .mark⟩]

/-- Reads the options behind a command, where no other command may follow. -/
def commandOptions (forms : List OptionForm) (words : List String) :
    Except ArgumentFault (List (String × String)) :=
  match scan (.help :: forms) [] none words with
  | .error e => .error e
  | .ok s =>
    match s.command with
    | none => s.finish
    | some (word, _) => .error (.unexpected word)

/-- Reads the view command. -/
def readView (words : List String) : Except ArgumentFault Command :=
  match commandOptions viewForms words with
  | .error e => .error e
  | .ok values =>
    match given values [] "ty" "" View.read? with
    | .error e => .error e
    | .ok none => .error (.missingOption "ty")
    | .ok (some v) => .ok (.view v)

/-- Reads the vote command. -/
def readVote (words : List String) : Except ArgumentFault Command :=
  match commandOptions voteForms words with
  | .error e => .error e
  | .ok values =>
    match selectionOf values with
    | .error e => .error e
    | .ok selection =>
      match given values [] "candidate" "" readCandidate with
      | .error e => .error e
      | .ok candidate => .ok (.vote selection candidate (values.lookup "track").isSome)

/-- Reads a command without options. -/
def readBare (c : Command) (words : List String) : Except ArgumentFault Command :=
  match commandOptions [] words with
  | .error e => .error e
  | .ok _ => .ok c

/-- The names of the commands. -/
def commandNames : List String := ["view", "candidates", "vote", "track", "submissions", "help"]

/-- Reads a command. -/
def readCommand (name : String) (words : List String) : Except ArgumentFault Command :=
  match name with
  | "view" => readView words
  | "candidates" => readBare .candidates words
  | "vote" => readVote words
  | "track" => readBare .track words
  | "submissions" => readBare .submissions words
  | "help" =>
    match words with
    | [] => .error .helpWanted
    | [w] => if commandNames.contains w then .error .helpWanted else .error (.unexpected w)
    | _ :: w :: _ => .error (.unexpected w)
  | _ => .error (.unexpected name)

/-! ### The whole line -/

/-- Reads the address of the contract. -/
def readContract (s : String) : Option ContractAddress := (ContractAddress.read s).toOption

/-- Reads the voter's account. -/
def readAccount (s : String) : Option Account := (Account.read s).toOption

/-- The options in front of the command. -/
def forms : List OptionForm :=
  [.help, .version, ⟨"node-url", none, .reading some⟩, ⟨"backend-url", none, .reading some⟩,
    ⟨"wallet-url", none, .reading some⟩, ⟨"contract", some 'c', .reading readContract⟩,
    ⟨"network", none, .reading Network.read?⟩, ⟨"store-path", none, .reading readPath⟩,
    ⟨"account", some 'a', .reading readAccount⟩]

/-- Reads a command line. The environment is asked last. -/
def read (env : Environment) (words : List String) : Except ArgumentFault CommandLine := do
  let scanned ← scan forms [] none words
  let (name, rest) ← match scanned.command with
    | some p => pure p
    | none => throw .missingCommand
  let command ← readCommand name rest
  let values ← scanned.finish
  let nodeUrl ← given values env "node-url" "ELECTION_NODE_URL" some
  let backendUrl ← given values env "backend-url" "ELECTION_BACKEND_URL" some
  let walletUrl ← given values env "wallet-url" "ELECTION_WALLET_URL" some
  let contract ← given values env "contract" "ELECTION_CONTRACT" readContract
  let network ← given values env "network" "ELECTION_NETWORK" Network.read?
  let storePath ← given values env "store-path" "ELECTION_STORE_PATH" readPath
  let account ← given values env "account" "ELECTION_ACCOUNT" readAccount
  pure ⟨nodeUrl, backendUrl, walletUrl, contract, network, storePath, account, command⟩

/-- The settings that result from the environment and the command line. -/
def settings (c : CommandLine) (env : Environment) : Settings :=
  let s := Settings.ofEnvironment env
  { s with
    nodeUrl := c.nodeUrl.getD s.nodeUrl
    backendUrl := c.backendUrl.getD s.backendUrl
    walletUrl := c.walletUrl.getD s.walletUrl
    contract := c.contract.getD s.contract
    network := c.network.getD s.network
    storePath := c.storePath.getD s.storePath }

end CommandLine

end ChainElection
