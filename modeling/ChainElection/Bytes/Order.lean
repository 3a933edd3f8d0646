/-!
The order of byte strings, `Bytes.le`: byte by byte, and a part before the whole.
-/

namespace ChainElection.Bytes

/-- Does one byte string come before another, or equal it? -/
def le : List UInt8 → List UInt8 → Bool
  | [], _ => true
  | _ :: _, [] => false
  | a :: as, b :: bs => a < b || (a == b && le as bs)

end ChainElection.Bytes
