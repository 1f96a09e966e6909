/-!
Contract: names for the things that a bridge keeps track of.

Each is a number given out once and never again, so that a name outlives the
thing it names without coming to mean another.
-/

namespace TransportBridge

/-- A managed callback target. -/
structure TargetId where
  index : Nat
deriving DecidableEq, Repr

/-- One registration of a handle. A handle that is registered anew has a new
entry. -/
structure EntryId where
  index : Nat
deriving DecidableEq, Repr

/-- A factory of callback targets for inbound connections. -/
structure FactoryId where
  index : Nat
deriving DecidableEq, Repr

/-- A thread of the host. -/
structure ThreadId where
  index : Nat
deriving DecidableEq, Repr

/-- The name of a native release hook. A hook is assumed to free native memory and
nothing more: it neither calls the bridge nor panics, so its name is all that is
known of it. -/
abbrev Hook := String

end TransportBridge
