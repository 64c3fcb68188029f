import Ballroom.Settings.Basic

/-! # Settings in memory

Settings that are kept in memory, count how often they are flushed and fail where they
are told to.  A call that fails changes nothing. -/

namespace Ballroom

/-- Settings in memory. -/
structure MemorySettings where
  values : List (String × Bool) := []
  flushes : Nat := 0
  plan : FaultPlan := {}

namespace MemorySettings

/-- Sets the value of a key, in place of an earlier one. -/
def set (m : MemorySettings) (key : String) (value : Bool) : MemorySettings :=
  { m with values := (key, value) :: m.values.filter fun entry => entry.1 != key }

/-- Fails as planned for a call or acts. -/
def call (text : String) (act : MemorySettings → MemorySettings) :
    HostStep MemorySettings Unit Unit :=
  fun (m, w) =>
    match m.plan.fault? text with
    | some fault => .error (.fault fault) (m, w)
    | none => .ok () (act m, w)

instance : SettingsStore MemorySettings Unit where
  getBool m _ key :=
    match m.plan.fault? ("get_bool " ++ key) with
    | some fault => .error fault
    | none => .ok (m.values.lookup key)
  setBool key value := call ("set_bool " ++ key) fun m => m.set key value
  flush := call "flush" fun m => { m with flushes := m.flushes + 1 }

end MemorySettings

end Ballroom
