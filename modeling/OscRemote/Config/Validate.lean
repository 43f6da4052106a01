import OscRemote.Config.Basic
import OscRemote.Config.Error

/-!
# Which configurations can be right

A client is made only from a configuration whose base address is empty or starts with a slash, whose
host is not empty and whose ports are not zero.  `Config.fault?` finds the first of these conditions
that fails, and `fault?_eq_none_iff` says that there is no other.
-/

namespace OscRemote

namespace Config

/-- The first fault of a configuration. -/
def fault? (c : Config) : Option Invalidity :=
  if !c.baseAddress.isEmpty && c.baseAddress.toList.head? != some '/' then
    some (.relativeBaseAddress c.baseAddress)
  else if c.host.isEmpty then some .emptyHost
  else if c.streamPort == 0 || c.datagramPort == 0 then some .zeroPort
  else none

/-- Refuses a configuration with a fault. -/
def validate (c : Config) : Except ConfigError Unit :=
  match c.fault? with
  | some fault => throw (.validation fault)
  | none => pure ()

theorem fault?_eq_none_iff (c : Config) :
    c.fault? = none ↔
      (c.baseAddress = "" ∨ c.baseAddress.toList.head? = some '/') ∧ c.host ≠ "" ∧
        c.streamPort ≠ 0 ∧ c.datagramPort ≠ 0 := by
  by_cases hb : c.baseAddress = "" <;> by_cases hs : c.baseAddress.toList.head? = some '/' <;>
    by_cases hh : c.host = "" <;> simp_all [fault?]

end Config

end OscRemote
