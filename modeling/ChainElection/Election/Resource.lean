import ChainElection.Binary.Codec
import ChainElection.Bytes.Hex
import ChainElection.Text.Outline
import ChainElection.Text.Quoted

/-!
Resources that lie off the chain: where they are, and the SHA-256 digest that
the chain holds of their bytes.
-/

namespace ChainElection

/-- The place and the digest of a resource. -/
structure Resource where
  url : String
  digest : Bytes32
  deriving DecidableEq, Inhabited

namespace Resource

/-- The digest in hexadecimal digits. -/
def digestText (r : Resource) : String := Hex.text r.digest.bytes

/-- The resource's outline. -/
def outline (r : Resource) : Outline :=
  .record "ChecksumUrl"
    [("url", .atom (Text.quoteText r.url)), ("hash", .ofBytes r.digest.bytes)]

/-- The resource's binary form. -/
def codec : Binary.Codec Resource :=
  (Binary.Codec.text.pair Binary.Codec.block).rename (fun p => ⟨p.1, p.2⟩)
    fun r => (r.url, r.digest)

end Resource

end ChainElection
