import OscRemote.Number.Binary

/-!
# Volumes in decibels

A volume between 0 and 1 is a ratio of amplitudes; in decibels it is twenty times its logarithm to
the base ten.  Silence is at minus infinity.
-/

namespace OscRemote.Number

/-- A ratio of amplitudes in decibels. -/
def Single.decibels (x : Single) : Single :=
  ⟨(20 * (Float32.ofBits x.bits).log10).toBits⟩

end OscRemote.Number
