import ChainElection.Binary.Codec
import ChainElection.Text.Outline
import ChainElection.Time.Instant

/-!
Moments, as the contract counts them: milliseconds since the start of 1970.

* `Moment.ofInstant` cuts an instant down to its millisecond; what lies before
  1970 counts as the start.
* `Moment.toInstant?` is the instant of a moment that the calendar has.
-/

namespace ChainElection

/-- A number of milliseconds since the start of 1970. -/
structure Moment where
  millis : UInt64
  deriving DecidableEq, Inhabited

namespace Moment

/-- The moment of an instant. -/
def ofInstant (t : Instant) : Moment := ⟨UInt64.ofNat t.milliseconds.toNat⟩

/-- The instant of a moment. -/
def toInstant? (m : Moment) : Option Instant := Instant.ofMilliseconds? m.millis.toNat

/-- The moment's outline. -/
def outline (m : Moment) : Outline := .group "Timestamp" [.ofNat m.millis.toNat]

/-- The moment's binary form. -/
def codec : Binary.Codec Moment := Binary.Codec.word64.rename Moment.mk Moment.millis

end Moment

end ChainElection
