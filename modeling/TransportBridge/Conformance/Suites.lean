import TransportBridge.Conformance.AttachmentCases
import TransportBridge.Conformance.LifecycleCases
import TransportBridge.Conformance.MessageCases
import TransportBridge.Conformance.OrderingCases

/-!
Contract: all suites, in the order in which they run.
-/

namespace TransportBridge.Conformance

def allSuites : List Suite :=
  [lifecycleSuite, orderingSuite, attachmentSuite, messageSuite]

/-- The suites that a name stands for: one of its own, or `all` of them. -/
def suitesNamed (name : String) : List Suite :=
  if name = "all" then allSuites else allSuites.filter (·.name = name)

/-- Runs suites in order and counts the records of all of them. -/
def runSuites (suites : List Suite) : Except Panic (List (String × Nat)) := do
  let logs ← suites.mapM Suite.run
  return logCounts logs.flatten

end TransportBridge.Conformance
