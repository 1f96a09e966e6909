/-!
Contract: how long a bridge lives.

The bridge, each dispatcher and each connection share one state. It lives while
any of them is held; a weak reference can be turned into a dispatcher as long
as it lives.
-/

namespace TransportBridge

/-- Who shares the state of a bridge. -/
inductive Holder where
  | bridge
  | dispatcher
  | peer
deriving DecidableEq, Repr

namespace Holder

/-- Whether a weak reference can be upgraded, first before anything is dropped
and then after each drop. -/
def upgradable (held : List Holder) : List Holder → List Bool
  | [] => [!held.isEmpty]
  | dropped :: rest => (!held.isEmpty) :: upgradable (held.filter (· ≠ dropped)) rest

end Holder

end TransportBridge
