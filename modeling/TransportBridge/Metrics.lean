import TransportBridge.Text.Inspect

/-!
Contract: the bridge's counters. They only grow.
-/

namespace TransportBridge

structure Metrics where
  registered : Nat := 0
  disposed : Nat := 0
  dispatched : Nat := 0
  dropped : Nat := 0
  invariantViolations : Nat := 0
  attachFailures : Nat := 0
deriving DecidableEq, Repr

namespace Metrics

def countRegistered (metrics : Metrics) : Metrics :=
  { metrics with registered := metrics.registered + 1 }

def countDisposed (metrics : Metrics) : Metrics :=
  { metrics with disposed := metrics.disposed + 1 }

def countDispatched (metrics : Metrics) : Metrics :=
  { metrics with dispatched := metrics.dispatched + 1 }

def countDropped (metrics : Metrics) : Metrics :=
  { metrics with dropped := metrics.dropped + 1 }

def countViolation (metrics : Metrics) : Metrics :=
  { metrics with invariantViolations := metrics.invariantViolations + 1 }

def countAttachFailure (metrics : Metrics) : Metrics :=
  { metrics with attachFailures := metrics.attachFailures + 1 }

def inspect (metrics : Metrics) : String :=
  Inspect.record "MetricsSnapshot" [("registered", toString metrics.registered),
    ("disposed", toString metrics.disposed), ("dispatched", toString metrics.dispatched),
    ("dropped", toString metrics.dropped),
    ("invariant_violations", toString metrics.invariantViolations),
    ("attach_failures", toString metrics.attachFailures)]

end Metrics

end TransportBridge
