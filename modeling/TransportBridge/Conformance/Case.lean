import TransportBridge.Conformance.Harness

/-!
Contract: test cases, suites of them, and how a failure is told.

A case is a computation on a fresh world; it fails by a panic. A suite runs its
cases in order and stops at the first that fails, whose panic then names suite
and case.
-/

namespace TransportBridge.Conformance

open Session

structure Case where
  name : String
  config : Config := {}
  body : SessionM Unit

structure Suite where
  name : String
  cases : List Case

/-- The panic of a failed case, with the place of the failure before its text. -/
def panicInCase (suite caseName : String) (cause : Panic) : Panic :=
  let text :=
    match cause with
    | .text message => message
    | _ => "<未知 panic 类型>"
  .text ("[c4-bridge-tck::" ++ suite ++ "::" ++ caseName ++ "] 测试失败：" ++ text)

/-- Fails unless an outcome is the error of a broken invariant. -/
def expectInvariant {α : Type} (inspect : α → String) (outcome : Except BridgeError α)
    (context : String) : Except Panic Unit :=
  let unexpected (found : String) : Except Panic Unit :=
    .error (.text (context ++ "：预期不变量破坏，得到 " ++ found))
  match outcome with
  | .ok value => unexpected (Inspect.tuple "Ok" (inspect value))
  | .error error =>
    if error.isInvariantViolation then .ok ()
    else unexpected (Inspect.tuple "Err" error.inspect)

/-- The notices that a case has left, or its panic. -/
def Case.run (testCase : Case) : Except Panic (List Notice) := do
  match testCase.body (← newWorld testCase.config) with
  | (.ok (), last) => return notices last.trace
  | (.error panic, _) => throw panic

def Suite.run (suite : Suite) : Except Panic (List Notice) := do
  let logs ← suite.cases.mapM fun testCase =>
    testCase.run.mapError (panicInCase suite.name testCase.name)
  return logs.flatten

private def countKey (key : String) : List (String × Nat) → List (String × Nat)
  | [] => [(key, 1)]
  | (head, count) :: tail =>
    if head = key then (head, count + 1) :: tail else (head, count) :: countKey key tail

/-- How often each record was written, by level and wording. Ignored closes are
left out: which side closes first is a matter of timing. -/
def logCounts (log : List Notice) : List (String × Nat) :=
  log.foldl (fun counts notice =>
    match notice with
    | .repeatedCloseIgnored _ => counts
    | _ => countKey (notice.level.render ++ " " ++ notice.message) counts) []

/-! ## Checks -/

def demand (holds : Bool) (what : String) : SessionM Unit :=
  unless holds do throw (.text ("expected: " ++ what))

/-- The result of a call that has to succeed. -/
def accepted {α : Type} (outcome : Except BridgeError α) : SessionM α :=
  match outcome with
  | .ok result => return result
  | .error error => throw (.text ("unexpected error: " ++ error.inspect))

def demandError {α : Type} (outcome : Except BridgeError α) (wanted : BridgeError → Bool)
    (what : String) : SessionM Unit :=
  match outcome with
  | .ok _ => throw (.text ("expected an error: " ++ what))
  | .error error => demand (wanted error) what

def demandInvariant {α : Type} (outcome : Except BridgeError α) (context : String) :
    SessionM Unit :=
  match expectInvariant (fun _ => "()") outcome context with
  | .ok () => return ()
  | .error panic => throw panic

def demandState (peer : Peer) (state : SocketState) : SessionM Unit := do
  demand (((← get).life peer.entry).state = state) ("state " ++ state.render)

def demandBound (handle : Handle) (bound : Bool) : SessionM Unit := do
  demand ((← get).own.registry.contains handle = bound) "membership in the registry"

def demandMetrics (wanted : Metrics → Bool) (what : String) : SessionM Unit := do
  demand (wanted (← get).own.metrics) what

/-- The events so far are of these kinds and in order. -/
def demandEvents (target : TargetId) (kinds : List EventKind) : SessionM Unit := do
  let recording ← recordingOf target
  demand (recording.events.toList.map SocketEvent.kind = kinds) "recorded events"
  demand recording.violations.isEmpty "no violation of the order"

def demandAttached (wanted : RuntimeView → Bool) (what : String) : SessionM Unit := do
  let world ← get
  demand ((world.runtime.view? world.thread).any wanted) what

/-- The hook has run this often. -/
def demandReleased (hook : Hook) (times : Nat) : SessionM Unit := do
  let runs := (← get).trace.toList.countP fun
    | .hookRan ran => ran = hook
    | _ => false
  demand (runs = times) ("releases of " ++ hook)

def closedCount (handle : Handle) : SessionM Nat :=
  return (← getStage).engine.closedCount handle

def allocateHandle : SessionM Handle :=
  changeStage fun stage =>
    let (handle, engine) := stage.engine.allocate
    (handle, { stage with engine })

def control (order : RuntimeControl) : SessionM Unit :=
  (Preparation.control order).perform

/-- Opens a connection to the usual endpoint. -/
def openUsual (cooperative : Bool) : SessionM Opened :=
  openConnection syncAddress (plainTarget cooperative)

end TransportBridge.Conformance
