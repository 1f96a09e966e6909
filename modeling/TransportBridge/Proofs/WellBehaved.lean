import Mathlib.Data.List.Induction
import TransportBridge.Proofs.EventOrder
import TransportBridge.Proofs.Scenes

/-!
Contract: sessions that behave well are accepted, from the open request to the
disposal.

The native side sends bytes and close requests and confirms each write in full;
the managed side writes, closes, retains and releases, in any order. Every step
succeeds, but for a release that nothing is outstanding for. Nothing is left on
either account between the steps.

Owns: the steps of a session, what each of them does to a scene, and the whole
session.
-/

namespace TransportBridge.Session

open Conformance References

/-! ## Lifecycles of a session -/

/-- The lifecycle between two steps: how many references are outstanding, whether
a close has been requested, and whether the managed side has finished its own. -/
def between (outstanding : Nat) (requested ended : Bool) : Lifecycle where
  state := if requested || ended then .closePending else .opened
  managedRefs := outstanding
  openDispatched := true
  managedReady := true
  managedClosed := ended
  pin := some ⟨0⟩

/-- The lifecycle after the closed event. -/
def ending (outstanding : Nat) (ended : Bool) : Lifecycle :=
  { between outstanding false ended with state := .closed, nativeRef := false }

section Lifecycles

variable (outstanding : Nat) (requested ended : Bool)

theorem between_streams :
    (between outstanding requested ended).state.acceptsStreamEvents = true := by
  cases requested <;> cases ended <;> rfl

theorem between_live : (between outstanding requested ended).state.isClosed = false :=
  SocketState.not_isClosed_of_acceptsStreamEvents (between_streams outstanding requested ended)

theorem acceptReceived_between (byteCount : Nat) (retained : Option (NativeBuffer Hook)) :
    (between outstanding requested ended).acceptReceived byteCount retained =
      .ok (⟨0⟩, { between outstanding requested ended with
        unackedReceive := byteCount
        receives := [⟨byteCount, retained⟩] }) := by
  unfold Lifecycle.acceptReceived Lifecycle.streamTarget
  rw [if_pos (between_streams outstanding requested ended)]
  simp [between, Lifecycle.pinnedTarget, Except.map]

/-- What has come in is acknowledged at once, and leaves nothing behind. -/
theorem acknowledgeReceive_between (byteCount : Nat) (retained : Option (NativeBuffer Hook)) :
    { between outstanding requested ended with
        unackedReceive := byteCount
        receives := [⟨byteCount, retained⟩] }.acknowledgeReceive byteCount =
      .ok (retained.toList, between outstanding requested ended) := by
  have live := between_live outstanding requested ended
  unfold Lifecycle.acknowledgeReceive
  rw [if_neg (by rw [live]; exact Bool.false_ne_true)]
  simp [Lifecycle.consume, between]

theorem recordWrite_between (byteCount limit : Nat) :
    (between outstanding requested ended).recordWrite byteCount limit =
      .ok ((), { between outstanding requested ended with pendingWrite := byteCount }) := by
  unfold Lifecycle.recordWrite
  rw [if_neg (fun refused => refused (between_streams outstanding requested ended))]
  simp [between]

theorem acceptWriteCompleted_between (byteCount : Nat) :
    { between outstanding requested ended with pendingWrite := byteCount }.acceptWriteCompleted
        byteCount = .ok (⟨0⟩, between outstanding requested ended) := by
  unfold Lifecycle.acceptWriteCompleted Lifecycle.streamTarget
  rw [if_pos (between_streams outstanding requested ended)]
  simp [between, Lifecycle.pinnedTarget]

theorem acceptCloseRequest_between :
    (between outstanding requested ended).acceptCloseRequest =
      .ok ((⟨0⟩, (between outstanding requested ended).state), between outstanding true ended) := by
  unfold Lifecycle.acceptCloseRequest Lifecycle.streamTarget
  rw [if_pos (between_streams outstanding requested ended)]
  rfl

theorem markManagedClosed_between :
    ∃ first, (between outstanding requested ended).markManagedClosed =
      (first, between outstanding requested true) := by
  cases ended with
  | false =>
      refine ⟨true, ?_⟩
      cases requested <;> rfl
  | true => exact ⟨false, rfl⟩

theorem retain_between :
    ∃ references, (between outstanding requested ended).retain =
      .ok (references, between (outstanding + 1) requested ended) := by
  cases requested <;> cases ended <;> exact ⟨_, rfl⟩

theorem release_between :
    (between (outstanding + 1) requested ended).release =
      .ok (none, between outstanding requested ended) := by
  cases requested <;> cases ended <;>
    simp [between, Lifecycle.release, Lifecycle.tryTeardown, Lifecycle.retainCount]

theorem release_between_unmatched :
    (between 0 requested ended).release = .error (.violation .releaseUnmatched) := by
  cases requested <;> cases ended <;> rfl

theorem beginClose_between :
    (between outstanding requested ended).beginClose =
      .ok ((⟨0⟩, (between outstanding requested ended).state),
        { between outstanding requested ended with state := .closed }) :=
  Lifecycle.beginClose_of_live (between_live outstanding requested ended) rfl

/-- The native reference is given up. With it goes the connection, if nothing is
outstanding. -/
theorem releaseNative_between :
    { between outstanding requested ended with state := .closed }.releaseNative =
      if outstanding = 0 then .ok (some ⟨some ⟨0⟩, []⟩, (ending 0 ended).tornDown)
      else .ok (none, ending outstanding ended) := by
  by_cases last : outstanding = 0 <;>
    simp [last, between, ending, Lifecycle.releaseNative, Lifecycle.tryTeardown,
      Lifecycle.retainCount, Lifecycle.tornDown]

theorem release_ending :
    (ending (outstanding + 1) ended).release =
      if outstanding = 0 then .ok (some ⟨some ⟨0⟩, []⟩, (ending 0 ended).tornDown)
      else .ok (none, ending outstanding ended) := by
  by_cases last : outstanding = 0 <;>
    simp [last, between, ending, Lifecycle.release, Lifecycle.tryTeardown,
      Lifecycle.retainCount, Lifecycle.tornDown]

end Lifecycles

/-! ## Steps -/

/-- A step of a session. A write is confirmed in full before the next step. -/
inductive SessionStep where
  | receive (data : Bytes) (ownership : Ownership) (hook : Option Hook)
  | write (data : Bytes)
  | closeRequest (status : Int) (message : Bytes)
  | managedClose (error : ErrorRecord)
  | retain
  | release
deriving DecidableEq, Repr

namespace SessionStep

/-- Takes the step on a connection. -/
def perform (peer : Peer) : SessionStep → SessionM (Except BridgeError Unit)
  | .receive data ownership hook => deliver peer.handle (.received ⟨some data, ownership, hook⟩)
  | .write data => do
    match ← call peer (.write data) with
    | .error error => return .error error
    | .ok _ => deliver peer.handle (.writeCompleted data.length)
  | .closeRequest status message => deliver peer.handle (.closeRequest status message)
  | .managedClose error => return (← call peer (.closed error)).map fun _ => ()
  | .retain => return (← call peer .retain).map fun _ => ()
  | .release => return (← call peer .release).map fun _ => ()

/-- The native side asks for a close. -/
def requests : SessionStep → Bool
  | .closeRequest _ _ => true
  | _ => false

/-- The managed side finishes its close. -/
def ends : SessionStep → Bool
  | .managedClose _ => true
  | _ => false

/-- What the target is told. -/
def told : SessionStep → List SocketEvent
  | .receive data _ _ => [.received data]
  | .write data => [.writeCompleted data.length]
  | .closeRequest status message => [.closeRequest status (decodeOrPlaceholder message).1]
  | _ => []

/-- How many retains are outstanding after the step. A release that there is
none for does not count. -/
def count (outstanding : Nat) : SessionStep → Nat
  | .retain => outstanding + 1
  | .release => outstanding - 1
  | _ => outstanding

/-- The answer to the step. -/
def answer (handle : Handle) (outstanding : Nat) : SessionStep → Except BridgeError Unit
  | .release =>
    if outstanding = 0 then .error (.invariantViolation (some handle) .releaseUnmatched) else .ok ()
  | _ => .ok ()

end SessionStep

/-- How many retains are outstanding after the steps. -/
def outstanding (steps : List SessionStep) : Nat :=
  steps.foldl SessionStep.count 0

/-! ## Recordings of a session -/

/-- All of it comes between the open request and the closed event. -/
def Midstream (told : List SocketEvent) : Prop :=
  ∀ event ∈ told, event.kind.isStream = true

/-- What a cooperative target has recorded of an open connection. -/
def recordingSince (peer : Peer) (address : Address) (told : List SocketEvent) : Recording where
  cooperative := true
  events := (.openRequest address [] :: told).toArray
  peer := some peer

/-- What it has recorded in the end. -/
def wholeRecording (address : Address) (told : List SocketEvent) (error : ErrorRecord) :
    Recording where
  cooperative := true
  events := (.openRequest address [] :: (told ++ [.closed error])).toArray

section Recordings

variable {told : List SocketEvent} (peer : Peer) (address : Address)

theorem not_saw_closed (stream : Midstream told) :
    (recordingSince peer address told).saw .closed = false := by
  have none_closed : told.any (·.kind = .closed) = false := by
    refine List.any_eq_false.mpr fun event member closed => ?_
    have between := stream event member
    rw [of_decide_eq_true closed] at between
    cases between
  unfold Recording.saw recordingSince
  simp only [List.any_toArray, List.any_cons, none_closed]
  rfl

theorem saw_openRequest : (recordingSince peer address told).saw .openRequest = true := by
  simp [Recording.saw, recordingSince, SocketEvent.kind]

/-- An event in its place breaks no rule. -/
theorem record_stream (stream : Midstream told) {event : SocketEvent}
    (next : event.kind.isStream = true) :
    (recordingSince peer address told).record peer event =
      recordingSince peer address (told ++ [event]) := by
  have unclosed := not_saw_closed peer address stream
  have opened : (recordingSince peer address told).saw .openRequest = true :=
    saw_openRequest peer address
  have goesOn : event.kind ≠ .closed := by
    intro closed
    rw [closed] at next
    cases next
  have inOrder : (recordingSince peer address told).violation? event.kind = none := by
    unfold Recording.violation?
    cases event <;> simp_all [EventKind.isStream, SocketEvent.kind]
  unfold Recording.record
  rw [inOrder, if_neg goesOn]
  simp [recordingSince]

theorem record_openRequest :
    ({ cooperative := true } : Recording).record peer (.openRequest address []) =
      recordingSince peer address [] := by
  simp [Recording.record, Recording.violation?, Recording.saw, recordingSince, SocketEvent.kind]

theorem record_closed (stream : Midstream told) (error : ErrorRecord) :
    (recordingSince peer address told).record peer (.closed error) =
      wholeRecording address told error := by
  have inOrder : (recordingSince peer address told).violation? .closed = none := by
    unfold Recording.violation?
    rw [not_saw_closed peer address stream]
    rfl
  unfold Recording.record
  rw [show (SocketEvent.closed error).kind = .closed from rfl, inOrder, if_pos rfl]
  simp [recordingSince, wholeRecording]

/-- The first event and the last are the only ones of their kinds. -/
theorem count_wholeRecording (stream : Midstream told) (error : ErrorRecord) :
    ((wholeRecording address told error).events.toList.map SocketEvent.kind).count
        .openRequest = 1 ∧
      ((wholeRecording address told error).events.toList.map SocketEvent.kind).count
        .closed = 1 := by
  have absent {kind : EventKind} (aside : kind.isStream = false) :
      (told.map SocketEvent.kind).count kind = 0 := by
    refine List.count_eq_zero.mpr fun member => ?_
    obtain ⟨event, heard, rfl⟩ := List.mem_map.mp member
    cases aside.symm.trans (stream event heard)
  have unopened : (told.map SocketEvent.kind).count .openRequest = 0 := absent rfl
  have unclosed : (told.map SocketEvent.kind).count .closed = 0 := absent rfl
  constructor
  · simp [wholeRecording, SocketEvent.kind, unopened]
  · simp [wholeRecording, SocketEvent.kind, unclosed]

end Recordings

/-! ## Harnesses -/

/-- A bridge with a recording engine, fresh and with nothing injected. -/
structure Harness where
  config : Config
  runtime : ManagedRuntime
  works : runtime.Works
  thread : ThreadId
  /-- The handle that the engine hands out first. -/
  handle : Handle

/-- The harness of a test that arranges nothing. -/
instance : Inhabited Harness :=
  ⟨⟨{}, .simulated {}, ⟨rfl, rfl, rfl⟩, ⟨0⟩, RecordingEngine.firstHandle⟩⟩

namespace Harness

variable (harness : Harness) (address : Address)

def world : World Stage Act where
  config := harness.config
  runtime := harness.runtime
  thread := harness.thread
  host := { engine := { next := harness.handle } }

/-- The first connection. -/
def peer : Peer :=
  ⟨⟨0⟩, harness.handle⟩

/-- How things stand with a lifecycle, when the target has been told so much. -/
def amidst (life : Lifecycle) (told : List SocketEvent) : Scene where
  handle := harness.handle
  life := life
  recording := recordingSince harness.peer address told
  bound := true
  disposals := 0

/-- How things stand after the steps. -/
def scene (steps : List SessionStep) : Scene :=
  harness.amidst address
    (between (outstanding steps) (steps.any SessionStep.requests) (steps.any SessionStep.ends))
    (steps.flatMap SessionStep.told)

/-- How things stand when the handle has just been bound. -/
def unpinned : Scene where
  handle := harness.handle
  life := {}
  recording := { cooperative := true }
  bound := true
  disposals := 0

/-- How things stand before the open request. -/
def requested : Scene :=
  { harness.unpinned with life := { pin := some ⟨0⟩ } }

/-- The target is on stage, and its recording at hand. -/
def staged : World Stage Act :=
  { harness.world with host := {
      engine := { next := harness.handle }
      cast := #[⟨some "", { cooperative := true }, []⟩]
      targets := [("", ⟨0⟩)]
      atHand := [⟨0⟩] } }

/-- The engine has handed out a handle. -/
def asked : World Stage Act :=
  { harness.staged with
    trace := #[.engineAsked address harness.config.defaultFraming]
    host := { harness.staged.host with
      engine := { harness.staged.host.engine.allocate.2 with
        records := #[.created harness.handle address harness.config.defaultFraming] } } }

/-- The handle is bound to the first entry. -/
def bound (notice : Notice) : World Stage Act :=
  { (harness.asked address).push (.noted notice) with
    own := { registry := { bindings := [(harness.handle, ⟨0⟩)] } }
    entries := #[⟨harness.handle, ⟨0⟩, {}⟩] }

open Registration

theorem lendingTarget_asked :
    Custody.lendingTarget ⟨0⟩ (askEngine (host runner) address harness.config.defaultFraming)
      harness.staged = (.ok (.ok harness.handle), harness.asked address) := rfl

theorem bind?_bound (notice : Notice) :
    bind? harness.handle ⟨0⟩ ((harness.asked address).push (.noted notice)) =
      (.ok (some harness.peer), harness.bound address notice) := rfl

theorem bound_set (notice : Notice) : harness.unpinned.Set (harness.bound address notice) :=
  ⟨rfl, rfl, rfl, harness.works, rfl, rfl, rfl, rfl⟩

theorem adopt_leads :
    Grants harness.unpinned (checked .own harness.unpinned.peer (Lifecycle.adoptPin ⟨0⟩)) ()
      harness.requested :=
  @checked_leads Unit harness.unpinned (Lifecycle.adoptPin ⟨0⟩) () { pin := some ⟨0⟩ } rfl

theorem pinned_leads :
    Grants harness.unpinned (do
      checked .own harness.unpinned.peer (Lifecycle.adoptPin ⟨0⟩)
      effect do
        count .own Metrics.countRegistered
        note (.registered harness.handle)
      return harness.peer : Call Stage Act Peer) harness.peer
      harness.requested := by
  have counted : Leads harness.requested (do
      count .own Metrics.countRegistered
      note (.registered harness.handle)) () harness.requested :=
    .bind (.count fun _ => rfl) (.note _)
  exact .bind harness.adopt_leads (.bind (.effect counted) (.pure _))

theorem register_sets (notice : Notice) :
    ∃ after, register harness.handle ⟨0⟩ ((harness.asked address).push (.noted notice)) =
      (.ok (.ok harness.peer), after) ∧ harness.requested.Set after := by
  obtain ⟨after, ran, set⟩ := harness.pinned_leads _ (harness.bound_set address notice)
  exact ⟨after, (effectBind_of_ok (harness.bind?_bound address notice)).trans ran, set⟩

theorem requestOutbound_sets :
    ∃ after, requestOutbound address (plainTarget true) harness.world =
      (.ok (.ok harness.peer, ⟨0⟩), after) ∧ harness.requested.Set after := by
  obtain ⟨after, ran, set⟩ := harness.register_sets address
    (.outboundCreated harness.handle address harness.config.defaultFraming)
  refine ⟨after, ?_, set⟩
  have registered : effect (register harness.handle ⟨0⟩).run
      ((harness.asked address).push (.noted _)) = (.ok (.ok (.ok harness.peer)), after) :=
    effect_of_ok ran
  have opened : (openOutbound (host runner) address none ⟨0⟩).run harness.staged =
      (.ok (.ok harness.peer), after) := by
    have seen : (get : Call Stage Act (World Stage Act)) harness.staged =
      (.ok (.ok harness.staged), harness.staged) := rfl
    refine (callBind_of_ok seen).trans ?_
    refine (effectBind_of_ok (harness.lendingTarget_asked address)).trans ?_
    refine (effectBind_of_ok rfl).trans ?_
    exact callBind_of_ok registered
  have cast : castTarget (plainTarget true) harness.world =
      (.ok ⟨0⟩, { harness.staged with host := { harness.staged.host with atHand := [] } }) := rfl
  exact (bind_of_ok cast).trans ((bind_of_ok rfl).trans (bind_of_ok opened))

/-- The open request is confirmed from inside the callback. -/
theorem onOpen_leads :
    Grants harness.requested
      (Delivery.onOpen (host runner) harness.handle address (.transferable [])) ()
      (harness.scene address []) := by
  let begun : Scene := { harness.requested with
    life := { harness.requested.life with state := .opening } }
  let ready : Scene := { begun.recorded (.openRequest address []) with
    life := { begun.life with managedReady := true } }
  have told : { ready with life := between 0 false false } = harness.scene address [] :=
    congrArg (fun recording : Recording => Scene.mk harness.handle (between 0 false false)
      recording true 0) (record_openRequest harness.peer address)
  have beginning : Grants harness.requested
      (checked .own harness.requested.peer Lifecycle.beginOpen) ⟨0⟩ begun :=
    @checked_leads TargetId harness.requested Lifecycle.beginOpen ⟨0⟩ begun.life rfl
  have replied : Grants (begun.recorded (.openRequest address []))
      (Socket.invoke (host (exec 7)) begun.peer .opened) none ready :=
    .bind (.bind (@checked_leads Bool (begun.recorded (.openRequest address [])) Lifecycle.markReady
      true ready.life rfl) (.effect (forwardFor_leads rfl .opened))) (.pure none)
  have called : Leads begun (callTarget runner begun.peer ⟨0⟩ (.openRequest address [])) ()
      ready := by
    have stranger : begun.KnowsItself := by
      intro peer known
      cases known
    refine callTarget_leads rfl stranger nofun fun reply asked => ?_
    obtain rfl : SocketCall.opened = reply := Option.some.inj asked
    exact ⟨_, exec_leads replied (.inl rfl)⟩
  have finished : Leads ready (change ⟨0⟩ Lifecycle.finishOpen) true
      { ready with life := between 0 false false } :=
    @Leads.change Bool ready true Lifecycle.finishOpen (between 0 false false) rfl
  rw [← told]
  show Leads _ (ensuring _ (dropBuffer ⟨none, .transferable, none⟩)) _ _
  refine .ensuring ?_ (.dropBuffer _)
  refine Grants.look fun world set => ?_
  have known : world.peer? harness.handle = some harness.requested.peer := set.peer? rfl
  rw [known]
  refine Grants.bind (Grants.pure harness.requested.peer) ?_
  refine holding_leads ?_ (.inl rfl)
  refine Grants.bind beginning (Grants.bind (deliverOr_leads called) ?_)
  exact Grants.bind (.effect finished) (.effect (.note _))

theorem openConnection_sets :
    ∃ after, openConnection address (plainTarget true) harness.world =
      (.ok ⟨harness.peer, ⟨0⟩⟩, after) ∧ (harness.scene address []).Set after := by
  obtain ⟨middle, asked, set⟩ := harness.requestOutbound_sets address
  obtain ⟨after, opened, set⟩ := harness.onOpen_leads address middle set
  exact ⟨after, (bind_of_ok asked).trans (bind_of_ok opened), set⟩

/-! ### Steps on a scene -/

section Steps

variable {life next accepted : Lifecycle} {told : List SocketEvent}

theorem amidst_knowsItself : (harness.amidst address life told).KnowsItself := by
  intro peer known
  cases known
  rfl

/-- A target is told of a stream event, which it does not answer. -/
theorem callTarget_amidst (stream : Midstream told) {event : SocketEvent}
    (midstream : event.kind.isStream = true)
    (unanswered : (recordingSince harness.peer address told).reply? event = none) :
    Leads (harness.amidst address life told) (callTarget runner harness.peer ⟨0⟩ event) ()
      (harness.amidst address life (told ++ [event])) := by
  have recorded : (harness.amidst address life told).recorded event =
      harness.amidst address life (told ++ [event]) :=
    congrArg (fun recording : Recording => Scene.mk harness.handle life recording true 0)
      (record_stream harness.peer address stream midstream)
  refine callTarget_leads rfl (harness.amidst_knowsItself address) (fun _ => recorded.symm) ?_
  intro reply answered
  cases unanswered.symm.trans answered

/-- The target acknowledges what it receives from inside the callback. -/
theorem callTarget_received (stream : Midstream told) (data : Bytes)
    {freed : List (NativeBuffer Hook)}
    (acknowledged : accepted.acknowledgeReceive data.length = .ok (freed, next)) :
    Leads (harness.amidst address accepted told)
      (callTarget runner harness.peer ⟨0⟩ (.received data)) ()
      (harness.amidst address next (told ++ [.received data])) := by
  have recorded : (harness.amidst address accepted told).recorded (.received data) =
      harness.amidst address accepted (told ++ [.received data]) :=
    congrArg (fun recording : Recording => Scene.mk harness.handle accepted recording true 0)
      (record_stream harness.peer address stream rfl)
  have settled : Grants (harness.amidst address accepted (told ++ [.received data]))
      (Socket.completedReceive (host (exec 7)) harness.peer data.length) ()
      (harness.amidst address next (told ++ [.received data])) :=
    .bind (checked_leads acknowledged)
      (.bind (.effect (.dropBuffers freed)) (.effect (forwardFor_leads rfl _)))
  have replied : Grants (harness.amidst address accepted (told ++ [.received data]))
      (Socket.invoke (host (exec 7)) harness.peer (.completedReceive data.length)) none
      (harness.amidst address next (told ++ [.received data])) :=
    .bind settled (.pure none)
  refine callTarget_leads rfl (harness.amidst_knowsItself address) nofun ?_
  intro reply answered
  obtain rfl : SocketCall.completedReceive data.length = reply := Option.some.inj answered
  rw [recorded]
  exact ⟨_, exec_leads replied (.inl rfl)⟩

variable (references : Nat) (requested ended : Bool)

theorem receive_leads (stream : Midstream told) (data : Bytes) (ownership : Ownership)
    (hook : Option Hook) :
    Leads (harness.amidst address (between references requested ended) told)
      (deliver harness.handle (.received ⟨some data, ownership, hook⟩)) (.ok ())
      (harness.amidst address (between references requested ended) (told ++ [.received data])) := by
  have entered (retained : Option (NativeBuffer Hook)) :
      Grants (harness.amidst address (between references requested ended) told) (do
        let target ← Delivery.enterReceived harness.peer data.length retained
        Delivery.deliverOr (host runner) harness.peer target (.received data) do
          Delivery.dropIfAny (← change (⟨0⟩ : EntryId) (Lifecycle.abortReceived data.length))) ()
        (harness.amidst address (between references requested ended)
          (told ++ [.received data])) := by
    have accepted := acceptReceived_between references requested ended data.length retained
    have acknowledged := acknowledgeReceive_between references requested ended data.length retained
    exact .bind (.bind (.effect (.attempt accepted)) (.pure _))
      (deliverOr_leads (harness.callTarget_received address stream data acknowledged))
  refine Grants.bind (.effect (lookup_leads rfl _)) (holding_leads ?_ (.inl rfl))
  cases ownership with
  | transferable => exact entered none
  | borrowed => exact entered (some ⟨some data, .borrowed, hook⟩)

theorem write_leads (stream : Midstream told) (data : Bytes) :
    Leads (harness.amidst address (between references requested ended) told)
      (SessionStep.perform harness.peer (.write data)) (.ok ())
      (harness.amidst address (between references requested ended)
        (told ++ [.writeCompleted data.length])) := by
  have written : Leads (harness.amidst address (between references requested ended) told)
      (call harness.peer (.write data)) (.ok none)
      (harness.amidst address
        { between references requested ended with pendingWrite := data.length } told) := by
    have recorded := recordWrite_between references requested ended data.length
    have forwarded : Grants (harness.amidst address (between references requested ended) told)
        (Socket.write (host runner) harness.peer data) () (harness.amidst address
          { between references requested ended with pendingWrite := data.length } told) :=
      .look fun world _ => .bind (checked_leads (recorded world.config.maxPendingWriteBytes))
        (.effect (forwardFor_leads rfl _))
    exact Grants.bind forwarded (.pure none)
  have confirmed : Leads (harness.amidst address
        { between references requested ended with pendingWrite := data.length } told)
      (deliver harness.handle (.writeCompleted data.length)) (.ok ())
      (harness.amidst address (between references requested ended)
        (told ++ [.writeCompleted data.length])) := by
    have accepted := acceptWriteCompleted_between references requested ended data.length
    refine Grants.bind (lookup_leads rfl _) (holding_leads ?_ (.inl rfl))
    exact Grants.bind (checked_leads accepted)
      (deliver_leads (harness.callTarget_amidst address stream rfl rfl))
  exact .bind written confirmed

theorem closeRequest_leads (stream : Midstream told) (status : Int) (message : Bytes) :
    Leads (harness.amidst address (between references requested ended) told)
      (deliver harness.handle (.closeRequest status message)) (.ok ())
      (harness.amidst address (between references true ended)
        (told ++ [.closeRequest status (decodeOrPlaceholder message).1])) := by
  have accepted := acceptCloseRequest_between references requested ended
  refine Grants.bind (lookup_leads rfl _) (holding_leads ?_ (.inl rfl))
  refine Grants.bind (checked_leads accepted) ?_
  exact Grants.bind (.effect (noteIfAny_leads _))
    (deliverOr_leads (harness.callTarget_amidst address stream rfl rfl))

theorem managedClose_leads (error : ErrorRecord) :
    Leads (harness.amidst address (between references requested ended) told)
      (call harness.peer (.closed error)) (.ok none)
      (harness.amidst address (between references requested true) told) := by
  obtain ⟨first, taken⟩ := markManagedClosed_between references requested ended
  have closed : Leads (harness.amidst address (between references requested ended) told)
      (Socket.closed (host runner) harness.peer error) ()
      (harness.amidst address (between references requested true) told) := by
    refine .bind (.change taken) ?_
    cases first with
    | true => exact forwardFor_leads rfl _
    | false => exact .note _
  exact Grants.bind (.effect closed) (.pure none)

theorem retain_leads :
    ∃ count, Leads (harness.amidst address (between references requested ended) told)
      (call harness.peer .retain) (.ok (some count))
      (harness.amidst address (between (references + 1) requested ended) told) := by
  obtain ⟨count, taken⟩ := retain_between references requested ended
  exact ⟨count, Grants.bind (checked_leads taken) (.pure _)⟩

theorem release_leads :
    Leads (harness.amidst address (between (references + 1) requested ended) told)
      (call harness.peer .release) (.ok none)
      (harness.amidst address (between references requested ended) told) :=
  Grants.bind (Grants.bind (checked_leads (release_between references requested ended)) (.pure ()))
    (.pure none)

theorem release_refused_leads :
    Leads (harness.amidst address (between 0 requested ended) told)
      (call harness.peer .release)
      (.error (.invariantViolation (some harness.handle) .releaseUnmatched))
      (harness.amidst address (between 0 requested ended) told) := by
  intro world set
  obtain ⟨after, ran, set⟩ :=
    checked_refused (release_between_unmatched requested ended) world set
  exact ⟨after, (callBind_of_rejected (callBind_of_rejected ran)), set⟩

end Steps

/-! ### The end of a session -/

section Ending

variable (ended : Bool) (told : List SocketEvent) (error : ErrorRecord)

/-- How things stand when the target has been told of the end. -/
def parting (life : Lifecycle) : Scene where
  handle := harness.handle
  life := life
  recording := wholeRecording address told error
  bound := true
  disposals := 0

/-- How things stand after the closed event, with so many retains outstanding. -/
def closing (references : Nat) : Scene :=
  if references = 0 then
    { harness.parting address told error (ending 0 ended).tornDown with
      bound := false
      disposals := 1 }
  else harness.parting address told error (ending references ended)

theorem closing_lingers (references : Nat) :
    (harness.closing address ended told error references).Lingers := by
  unfold closing
  by_cases last : references = 0
  · rw [if_pos last]
    exact .inr rfl
  · rw [if_neg last]
    exact .inl rfl

/-- Who gives up the last reference disposes of the connection. -/
theorem finish_leads {life : Lifecycle} {references : Nat}
    {step : Lifecycle → Lifecycle.Step (Option Teardown)}
    (given : step life =
      if references = 0 then .ok (some ⟨some ⟨0⟩, []⟩, (ending 0 ended).tornDown)
      else .ok (none, ending references ended)) :
    Grants (harness.parting address told error life) (do
      finish .own harness.peer (← checked .own harness.peer step)) ()
      (harness.closing address ended told error references) := by
  unfold closing
  by_cases last : references = 0
  · rw [if_pos last] at given ⊢
    exact .bind (checked_leads given) (.effect (teardown_leads rfl rfl))
  · rw [if_neg last] at given ⊢
    exact .bind (checked_leads given) (.pure ())

theorem onClosed_leads {told : List SocketEvent} (stream : Midstream told) (references : Nat)
    (requested : Bool) (domain code : Int) (message : Bytes) :
    Leads (harness.amidst address (between references requested ended) told)
      (deliver harness.handle (.closed domain code message)) (.ok ())
      (harness.closing address ended told (translate domain code message).1 references) := by
  let life : Lifecycle := { between references requested ended with state := .closed }
  have begun := beginClose_between references requested ended
  have recorded : (harness.amidst address life told).recorded
      (.closed (translate domain code message).1) =
      harness.parting address told (translate domain code message).1 life :=
    congrArg (fun recording : Recording => Scene.mk harness.handle life recording true 0)
      (record_closed harness.peer address stream _)
  have called : Leads (harness.amidst address life told) (callTarget runner harness.peer ⟨0⟩
      (.closed (translate domain code message).1)) ()
      (harness.parting address told (translate domain code message).1 life) :=
    callTarget_leads rfl (harness.amidst_knowsItself address) (fun _ => recorded.symm) nofun
  refine Grants.bind (lookup_leads rfl _)
    (holding_leads ?_ (harness.closing_lingers address _ _ _ _))
  refine Grants.bind (.effect (noteIfAny_leads _)) (Grants.bind (checked_leads begun) ?_)
  refine Grants.bind (.effect (.onPanic (deliver_leads called) _)) ?_
  exact harness.finish_leads address ended told _ (releaseNative_between references requested ended)

theorem release_closing_leads (references : Nat) :
    Leads (harness.closing address ended told error (references + 1))
      (call harness.peer .release) (.ok none)
      (harness.closing address ended told error references) :=
  Grants.bind (harness.finish_leads address ended told error (release_ending references ended))
    (.pure none)

end Ending

/-! ## Sessions -/

theorem midstream_told (steps : List SessionStep) : Midstream (steps.flatMap SessionStep.told) := by
  intro event member
  obtain ⟨step, _, told⟩ := List.mem_flatMap.mp member
  cases step <;> simp only [SessionStep.told, List.mem_singleton, List.not_mem_nil] at told
  all_goals
    rw [told]
    rfl

/-- One step of a session, whatever has gone before. -/
theorem perform_leads {told : List SocketEvent} (stream : Midstream told) (references : Nat)
    (requested ended : Bool) (step : SessionStep) :
    Leads (harness.amidst address (between references requested ended) told)
      (step.perform harness.peer) (step.answer harness.handle references)
      (harness.amidst address
        (between (step.count references) (requested || step.requests) (ended || step.ends))
        (told ++ step.told)) := by
  cases step with
  | receive data ownership hook =>
      simp only [SessionStep.requests, SessionStep.ends, Bool.or_false]
      exact harness.receive_leads address references requested ended stream data ownership hook
  | write data =>
      simp only [SessionStep.requests, SessionStep.ends, Bool.or_false]
      exact harness.write_leads address references requested ended stream data
  | closeRequest status message =>
      simp only [SessionStep.requests, SessionStep.ends, Bool.or_false, Bool.or_true]
      exact harness.closeRequest_leads address references requested ended stream status message
  | managedClose error =>
      simp only [SessionStep.requests, SessionStep.ends, SessionStep.told, Bool.or_false,
        Bool.or_true, List.append_nil]
      exact .bind (harness.managedClose_leads address references requested ended error) (.pure _)
  | retain =>
      simp only [SessionStep.requests, SessionStep.ends, SessionStep.told, Bool.or_false,
        List.append_nil]
      obtain ⟨count, retained⟩ := harness.retain_leads address references requested ended
      exact .bind retained (.pure _)
  | release =>
      simp only [SessionStep.requests, SessionStep.ends, SessionStep.told, Bool.or_false,
        List.append_nil]
      cases references with
      | zero => exact .bind (harness.release_refused_leads address requested ended) (.pure _)
      | succ references =>
          exact .bind (harness.release_leads address references requested ended) (.pure _)

theorem scene_concat (steps : List SessionStep) (step : SessionStep) :
    harness.scene address (steps ++ [step]) = harness.amidst address
      (between (step.count (outstanding steps))
        (steps.any SessionStep.requests || step.requests) (steps.any SessionStep.ends || step.ends))
      (steps.flatMap SessionStep.told ++ step.told) := by
  simp [scene, outstanding]

theorem any_or (steps : List SessionStep) :
    (steps.any SessionStep.requests || steps.any SessionStep.ends) =
      steps.any fun step => step.requests || step.ends := by
  induction steps with
  | nil => rfl
  | cons step rest inductionHypothesis =>
      simp only [List.any_cons, ← inductionHypothesis]
      cases step.requests <;> cases step.ends <;> simp

/-- The world after the steps. -/
def after (steps : List SessionStep) : World Stage Act :=
  steps.foldl (fun world step => (step.perform harness.peer world).2)
    (openConnection address (plainTarget true) harness.world).2

theorem after_set (steps : List SessionStep) :
    (harness.scene address steps).Set (harness.after address steps) := by
  induction steps using List.reverseRecOn with
  | nil =>
      obtain ⟨after, opened, set⟩ := harness.openConnection_sets address
      show (harness.scene address []).Set
        (openConnection address (plainTarget true) harness.world).2
      rw [opened]
      exact set
  | append_singleton steps step inductionHypothesis =>
      obtain ⟨after, performed, set⟩ := harness.perform_leads address (midstream_told steps)
        (outstanding steps) _ _ step _ inductionHypothesis
      have last : harness.after address (steps ++ [step]) =
          (step.perform harness.peer (harness.after address steps)).2 := by
        simp [Harness.after]
      rw [last, performed, scene_concat]
      exact set

/-- The world after the closed event and so many releases. -/
def released (steps : List SessionStep) (domain code : Int) (message : Bytes) :
    Nat → World Stage Act
  | 0 => (deliver harness.handle (.closed domain code message) (harness.after address steps)).2
  | count + 1 => (call harness.peer .release (released steps domain code message count)).2

theorem released_set (steps : List SessionStep) (domain code : Int) (message : Bytes)
    {count : Nat} (within : count ≤ outstanding steps) :
    (harness.closing address (steps.any SessionStep.ends) (steps.flatMap SessionStep.told)
      (translate domain code message).1 (outstanding steps - count)).Set
      (harness.released address steps domain code message count) := by
  induction count with
  | zero =>
      obtain ⟨after, closed, set⟩ := harness.onClosed_leads address (steps.any SessionStep.ends)
        (midstream_told steps) (outstanding steps) _ domain code message _
        (harness.after_set address steps)
      show Scene.Set _ (deliver harness.handle _ (harness.after address steps)).2
      rw [closed]
      exact set
  | succ count inductionHypothesis =>
      have before := inductionHypothesis (by omega)
      have left : outstanding steps - count = outstanding steps - (count + 1) + 1 := by omega
      rw [left] at before
      obtain ⟨after, given, set⟩ := harness.release_closing_leads address _ _ _ _ _ before
      show Scene.Set _ (call harness.peer .release (harness.released address steps domain code
        message count)).2
      rw [given]
      exact set

theorem disposed_set (steps : List SessionStep) (domain code : Int) (message : Bytes) :
    Scene.Set { harness.parting address (steps.flatMap SessionStep.told)
        (translate domain code message).1 (ending 0 (steps.any SessionStep.ends)).tornDown with
      bound := false
      disposals := 1 }
      (harness.released address steps domain code message (outstanding steps)) := by
  have set := harness.released_set address steps domain code message (Nat.le_refl _)
  rw [Nat.sub_self] at set
  unfold closing at set
  rwa [if_pos rfl] at set

/-- The session is accepted: a connection is opened, takes the steps, hears of its
end, and is disposed of when the retains that are outstanding then are released. -/
structure Accepted (steps : List SessionStep) (domain code : Int) (message : Bytes) : Prop where
  opens : (openConnection address (plainTarget true) harness.world).1 = .ok ⟨harness.peer, ⟨0⟩⟩
  /-- Every step succeeds, but for a release that nothing is outstanding for. -/
  answers : ∀ earlier step later, steps = earlier ++ step :: later →
    (step.perform harness.peer (harness.after address earlier)).1 =
      .ok (step.answer harness.handle (outstanding earlier))
  state : ∀ earlier later, steps = earlier ++ later →
    ((harness.after address earlier).life harness.peer.entry).state =
      if earlier.any fun step => step.requests || step.ends then .closePending else .opened
  settled : ∀ earlier later, steps = earlier ++ later →
    ((harness.after address earlier).life harness.peer.entry).pendingWrite = 0 ∧
      ((harness.after address earlier).life harness.peer.entry).unackedReceive = 0
  closes : (deliver harness.handle (.closed domain code message) (harness.after address steps)).1 =
    .ok (.ok ())
  /-- The connection lasts for those who have retained it. -/
  lasts : ∀ count < outstanding steps,
    ((harness.released address steps domain code message count).life harness.peer.entry).state =
        .closed ∧
      (call harness.peer .release (harness.released address steps domain code message count)).1 =
        .ok (.ok none)
  disposed : ((harness.released address steps domain code message
    (outstanding steps)).life harness.peer.entry).state = .disposed
  unbound : (harness.released address steps domain code message
    (outstanding steps)).own.registry.isEmpty = true
  disposedOnce : (harness.released address steps domain code message
    (outstanding steps)).own.metrics.disposed = 1
  /-- The target has heard of everything in its order. -/
  recorded : ∃ recording, (recordingOf ⟨0⟩ (harness.released address steps domain code message
      (outstanding steps))).1 = .ok recording ∧
    recording.events.toList = .openRequest address [] ::
      (steps.flatMap SessionStep.told ++ [.closed (translate domain code message).1]) ∧
    recording.violations = #[] ∧
    (recording.events.toList.map SocketEvent.kind).count .openRequest = 1 ∧
    (recording.events.toList.map SocketEvent.kind).count .closed = 1

/-- Well-behaved sessions are always accepted. -/
theorem wellBehaved_accepted (steps : List SessionStep) (domain code : Int) (message : Bytes) :
    harness.Accepted address steps domain code message where
  opens := by
    obtain ⟨after, opened, _⟩ := harness.openConnection_sets address
    rw [opened]
  answers earlier step later _ := by
    obtain ⟨after, performed, _⟩ := harness.perform_leads address (midstream_told earlier)
      (outstanding earlier) _ _ step _ (harness.after_set address earlier)
    rw [performed]
  state earlier later _ := by
    have life : (harness.after address earlier).life harness.peer.entry = _ :=
      (harness.after_set address earlier).life
    rw [life, ← any_or]
    rfl
  settled earlier later _ := by
    have life : (harness.after address earlier).life harness.peer.entry = _ :=
      (harness.after_set address earlier).life
    rw [life]
    exact ⟨rfl, rfl⟩
  closes := by
    obtain ⟨after, closed, _⟩ := harness.onClosed_leads address (steps.any SessionStep.ends)
      (midstream_told steps) (outstanding steps) _ domain code message _
      (harness.after_set address steps)
    rw [closed]
  lasts count within := by
    have set := harness.released_set address steps domain code message (Nat.le_of_lt within)
    have left : outstanding steps - count = outstanding steps - (count + 1) + 1 := by omega
    rw [left] at set
    obtain ⟨after, given, _⟩ := harness.release_closing_leads address _ _ _ _ _ set
    unfold closing at set
    rw [if_neg (Nat.succ_ne_zero _)] at set
    have life : (harness.released address steps domain code message count).life
      harness.peer.entry = _ := set.life
    rw [life, given]
    exact ⟨rfl, rfl⟩
  disposed := congrArg Lifecycle.state
    (harness.disposed_set address steps domain code message).life
  unbound := List.isEmpty_iff.mpr (harness.disposed_set address steps domain code message).bindings
  disposedOnce := (harness.disposed_set address steps domain code message).disposals
  recorded := by
    have once := count_wholeRecording address (midstream_told steps)
      (translate domain code message).1
    exact ⟨_, (harness.disposed_set address steps domain code message).recorded, rfl, rfl, once⟩

end Harness

end TransportBridge.Session
