import ChainElection.Json.Decoder
import ChainElection.Table

/-!
The text in which the voter's program keeps its store: an object of JSON whose
members are the store's keys, each with the text that stands at it.
-/

namespace ChainElection.StoreText

/-- The text of a store. -/
def write (t : Table String String) : String :=
  (Json.ofMembers (t.entries.map fun e => (e.1, Json.ofText e.2))).text

/-- Takes one more member into account. -/
def step (key : String) (j : Json) (t : Table String String) :
    Except Json.Fault (Table String String) :=
  (Json.asText j).map fun s => t.set key s

/-- Decodes a store. -/
def ofJson : Json.Decoder (Table String String)
  | .object ms => Json.foldMembers step .empty ms
  | j => .error (Json.mismatch j)

/-- The store of a text. -/
def read (s : String) : Except Json.Fault (Table String String) := Json.decodeText ofJson s

end ChainElection.StoreText
