import TransportBridge.Conformance.Case

/-!
Contract: the cases on many connections side by side, and on a close that both
sides begin.

Threads take turns here: of two sides that race, the native side goes first.
What the cases check does not depend on who does.
-/

namespace TransportBridge.Conformance

open Session

/-- How often the race is run. -/
def closeRaceIterations : Nat := 1000

private def raceOnce (iteration : Nat) : SessionM Unit := do
  let ⟨peer, target⟩ ← openUsual true
  let handle := peer.handle
  let message := messageBytes "going away"
  let _ ← accepted (← call peer .retain)
  let _ ← deliver handle (.closeRequest CloseCode.goingAway message)
  accepted (← deliver handle (.closed 6 CloseCode.goingAway message))
  let _ ← call peer (.closed (.ofCloseCode CloseCode.goingAway none))
  let _ ← accepted (← call peer .release)
  demandMetrics (·.disposed = iteration + 1) "one disposal more"
  demandMetrics (·.invariantViolations = 0) "no violation"
  demandState peer .disposed
  demandBound handle false
  demandEvents target [.openRequest, .closeRequest, .closed]
  demand ((← closedCount handle) ≤ 1) "at most one closed call"

private def closeRace : SessionM Unit := do
  (List.range closeRaceIterations).forM raceOnce
  demand (← get).own.registry.isEmpty "an empty registry"

private def handleCount : Nat := 100

private def workerCount : Nat := 8

/-- Stream events for each handle, received bytes and write completions in
turn. -/
private def streamEvents : Nat := 10

private def driveRound (round : Nat) (opened : Opened) : SessionM Unit := do
  let handle := opened.peer.handle
  if round % 2 = 0 then
    accepted (← deliver handle (.received (.transferable (List.replicate 4 round.toUInt8))))
  else
    let _ ← accepted (← call opened.peer (.write (messageBytes "ping")))
    accepted (← deliver handle (.writeCompleted 4))

private def requestClose (opened : Opened) : SessionM Unit := do
  accepted (← deliver opened.peer.handle
    (.closeRequest CloseCode.normal (messageBytes "done")))

private def finishClose (opened : Opened) : SessionM Unit := do
  let _ ← accepted (← call opened.peer (.closed .success))
  accepted (← deliver opened.peer.handle (.closed 1 successCode []))

/-- The connections of one worker, which takes each of its steps on all of them
before the next step. -/
private def driveWorker (worker : Nat) : SessionM (List Opened) := do
  let owned := (List.range handleCount).filter (· % workerCount = worker)
  let sessions ← owned.mapM fun _ => openUsual true
  (List.range streamEvents).forM fun round => sessions.forM (driveRound round)
  sessions.forM requestClose
  sessions.forM finishClose
  return sessions

private def expectedKinds : List EventKind :=
  [.openRequest] ++
    (List.range streamEvents).map (fun round =>
      if round % 2 = 0 then EventKind.received else .writeCompleted) ++
    [.closeRequest, .closed]

private def checkSession (opened : Opened) : SessionM Unit := do
  demandState opened.peer .disposed
  demandEvents opened.target expectedKinds
  demand ((← recordingOf opened.target).received.length = streamEvents / 2 * 4)
    "received bytes"

private def checkUnknown (opened : Opened) : SessionM Unit := do
  let handle := opened.peer.handle
  demandError (← deliver handle (.received (.transferable (List.replicate 4 0))))
    (· = .unknownHandle handle) "a disposed handle is unknown"
  demandEvents opened.target expectedKinds

private def interleavedHandles : SessionM Unit := do
  let sessions := ((← (List.range workerCount).mapM driveWorker)).flatten
  demand (sessions.length = handleCount) "all connections"
  sessions.forM checkSession
  demand (← get).own.registry.isEmpty "an empty registry"
  demandMetrics (fun m => m.registered = handleCount ∧ m.disposed = handleCount ∧
    m.invariantViolations = 0) "all disposed, no violation"
  sessions.forM checkUnknown

def orderingSuite : Suite where
  name := "ordering"
  cases := [
    { name := "close_race_tears_down_exactly_once", body := closeRace },
    { name := "interleaved_handles_keep_per_handle_order", body := interleavedHandles }]

end TransportBridge.Conformance
