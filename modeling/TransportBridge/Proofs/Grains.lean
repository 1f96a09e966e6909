import TransportBridge.Proofs.Quiet

/-!
Contract: what a run does, as fine as it can be seen.

A grain is a stride with nothing left out: the hooks that run, the buffers that
come and go, what a call begins and ends with, and how the host may rearrange
its surroundings. Trails of grains are paths, so that all that is known of
paths is known of them.

Owns: grains and trails.

Does not own: that a run is made of grains.
-/

namespace TransportBridge

/-! ## Buffers of reports -/

namespace NativeBuffer

/-- What stays with received bytes until they are acknowledged: the buffer, if
it is borrowed. -/
def lent (buffer : NativeBuffer Hook) : Option (NativeBuffer Hook) :=
  match buffer.spent.ownership with
  | .borrowed => some buffer.spent
  | .transferable => none

/-- A buffer loses its hook by a transfer, or keeps it. -/
theorem dropped_spent_sublist (buffer : NativeBuffer Hook) :
    buffer.spent.dropped.Sublist buffer.dropped := by
  unfold NativeBuffer.spent transfer view
  cases buffer.ownership <;> cases buffer.data <;> simp [dropped]

end NativeBuffer

namespace NativeEvent

/-- The hooks that the report comes with. -/
def hooks : NativeEvent → List Hook
  | .openRequest _ options => options.dropped
  | .received data => data.dropped
  | _ => []

/-- What the report adds to the unacknowledged receives when it is accepted. -/
def entered : NativeEvent → List PendingReceive
  | .received data => [⟨data.size, data.lent⟩]
  | _ => []

end NativeEvent

/-- The hooks of the buffers that a call of the managed side frees. -/
def Lifecycle.freedBy (life : Lifecycle) : EngineCall → List Hook
  | .completedReceive byteCount =>
    (consume byteCount life.receives).1.flatMap NativeBuffer.dropped
  | _ => []

/-- The host is asked for something that is no registration's affair. -/
def Moment.isAsking {μ : Type} : Moment μ → Bool
  | .engineAsked _ _ | .factoryAsked _ _ _ _ | .engineCalled none _ _ => true
  | _ => false

theorem Moment.asking_cases {μ : Type} {moment : Moment μ} (asking : moment.isAsking = true) :
    (∃ address framing, moment = .engineAsked address framing) ∨
    (∃ factory handle address options, moment = .factoryAsked factory handle address options) ∨
    ∃ handle call, moment = .engineCalled none handle call := by
  cases moment with
  | engineAsked => exact .inl ⟨_, _, rfl⟩
  | factoryAsked => exact .inr (.inl ⟨_, _, _, _, rfl⟩)
  | engineCalled source =>
      cases source with
      | none => exact .inr (.inr ⟨_, _, rfl⟩)
      | some _ => cases asking
  | _ => cases asking

/-- The call has told a registration of its open request. -/
def Frame.Opens (frame : Frame) (id : EntryId) : Prop :=
  ∃ peer target address options attached, peer.entry = id ∧
    .callback peer target (.openRequest address options) attached ∈ frame.own

/-- The call reports an open request. -/
def BridgeCall.isOpening : BridgeCall → Bool
  | .native _ (.openRequest _ _) => true
  | _ => false

/-- What the call asks of the engine. -/
def SocketCall.engineCall? : SocketCall → Option EngineCall
  | .opened => some .opened
  | .httpResponse status headers => some (.httpResponse status headers)
  | .write data => some (.write data)
  | .completedReceive byteCount => some (.completedReceive byteCount)
  | .closeRequest status message => some (.closeRequest status message)
  | .closed error => some (.closed error)
  | .retain | .release => none

/-! ## Grains -/

section Grains

variable {σ : Type} {world after : World σ Mark}

namespace World

/-- The innermost call is a report that has neither called back nor run a
hook. -/
def Reports (world : World σ Mark) (handle : Handle) (event : NativeEvent) : Prop :=
  ∃ frame outer, world.reading.frames = frame :: outer ∧ frame.call = .native handle event ∧
    frame.callbacks = [] ∧ frame.hooks = []

/-- The innermost call is a report whose buffer may be dropped: that of
received bytes unless they have come in. -/
def Drops (world : World σ Mark) (hooks : List Hook) : Prop :=
  ∃ frame outer handle event, world.reading.frames = frame :: outer ∧
    frame.call = .native handle event ∧ frame.hooks = [] ∧
    (event.kind = .received → frame.callbacks = []) ∧ hooks.Sublist event.hooks

/-- What the innermost call is can be read off the trace. -/
theorem Drops.of_trace {hooks : List Hook} (drops : world.Drops hooks)
    (trace : after.trace = world.trace) : after.Drops hooks := by
  unfold Drops reading acts at drops ⊢
  rwa [trace]

/-- The innermost call is one on the connection, and asks that of the engine. -/
def Asks (world : World σ Mark) (id : EntryId) (asked : EngineCall) : Prop :=
  ∃ frame outer call, world.reading.frames = frame :: outer ∧ frame.call = .socket id call ∧
    call.engineCall? = some asked

/-- A confirmation of readiness with this reply may end. One that has asked the
engine returns or panics, and one that returns leaves the connection
confirmed. -/
structure Confirms (world : World σ Mark) (id : EntryId) (reply : Reply) : Prop where
  heard : ∀ frame ∈ world.reading.frames.head?,
    frame.own = [] ∨ reply = .done ∨ ∃ panic, reply = .panicked panic
  confirmed : reply = .done → .forwarded .opened ∈ world.deeds id ∨
    (world.life id).managedReady = true ∨ (world.life id).state = .opened

/-- The innermost call has done what agrees with the reply. -/
def Closes (world : World σ Mark) (call : BridgeCall) (reply : Reply) : Prop :=
  ∃ frame outer, world.reading.frames = frame :: outer ∧ frame.call = call ∧
    Ended.Fair { frame with reply }

end World

/-- How the host may rearrange its surroundings. -/
abbrev Latitude (σ : Type) :=
  World σ Mark → Surroundings σ → Prop

variable [Custodian σ]

/-- A stride with nothing left out. -/
inductive Grain (may : Latitude σ) : World σ Mark → World σ Mark → Prop where
  | rearranged {world : World σ Mark} {surroundings : Surroundings σ}
      (allowed : may world surroundings) : Grain may world (world.amid surroundings)
  | quiet {world after : World σ Mark} {charge : Counter → Nat}
      (quiet : world.Quiet [] charge after) : Grain may world after
  | asked {world : World σ Mark} {moment : Moment Mark} (asking : moment.isAsking = true) :
      Grain may world (world.push moment)
  /-- A report drops its buffer. -/
  | loosed {world after : World σ Mark} {hooks : List Hook} {charge : Counter → Nat}
      (drops : world.Drops hooks) (quiet : world.Quiet hooks charge after) : Grain may world after
  | begun {world : World σ Mark} (call : BridgeCall) :
      Grain may world (world.push (.marked (.called call)))
  | ended {world : World σ Mark} {call : BridgeCall} {reply : Reply}
      (closes : world.Closes call reply)
      (untold : ∀ id, (Mark.replied call reply).deed? id = none) (noLapse : reply.isLapse = false)
      (unopened : call.isOpening = true → reply ≠ .done)
      (confirms : ∀ id, call = .socket id .opened → world.Confirms id reply) :
      Grain may world (world.push (.marked (.replied call reply)))
  | registered {world after : World σ Mark} {registry : Registry} {handle : Handle}
      {target : TargetId} {charge : Counter → Nat}
      (inserted : world.own.registry.insert? handle ⟨world.entries.size⟩ = some registry)
      (quiet : (world.enrolled registry handle target).Quiet [] charge after) :
      Grain may world after
  | called {world ready : World σ Mark} {peer : Peer} {event : NativeEvent} {target : TargetId}
      {next : Lifecycle} {charge : Counter → Nat} (genuine : world.Genuine peer)
      (accepts : (world.life peer.entry).Accepts event.told target next)
      (entered : next.receives = (world.life peer.entry).receives ++ event.entered)
      (reports : world.Reports peer.handle event)
      (quiet : (world.setLife peer.entry next).Quiet [] charge ready) (attached : Option Bool) :
      Grain may world (ready.push (.callback peer target event.told attached))
  /-- A delivery fails for want of a context, and the log tells of that. -/
  | missed {world after : World σ Mark} {peer : Peer} {event : SocketEvent} {left : Lifecycle}
      {charge : Counter → Nat} (genuine : world.Genuine peer)
      (misses : (world.life peer.entry).Misses event left)
      (quiet : (world.setLife peer.entry left).Quiet [] charge after)
      (dropped : world.drops peer.handle event.kind < after.drops peer.handle event.kind) :
      Grain may world after
  /-- The callback of an open request has returned, and the report of it ends. -/
  | opened {world : World σ Mark} {peer : Peer} {handle : Handle} {address : Address}
      {options : NativeBuffer Hook} (genuine : world.Genuine peer)
      (begun : .callback .openRequest ∈ world.deeds peer.entry)
      (tells : ∃ frame outer, world.reading.frames = frame :: outer ∧ frame.Opens peer.entry)
      (closes : world.Closes (.native handle (.openRequest address options)) .done) :
      Grain may world ((world.setLife peer.entry (world.life peer.entry).finishOpen.2).push
        (.marked (.replied (.native handle (.openRequest address options)) .done)))
  | settled {world after : World σ Mark} {peer : Peer} {outcome : Option Teardown × Lifecycle}
      {charge : Counter → Nat} (genuine : world.Genuine peer)
      (given : (world.life peer.entry).releaseNative = .ok outcome)
      (quiet : (world.concluded peer outcome).Quiet (outcome.1.toList.flatMap Teardown.hooks)
        charge after) : Grain may world after
  | forwarded {world ready : World σ Mark} {peer : Peer} {call : EngineCall} {next : Lifecycle}
      {charge : Counter → Nat} (genuine : world.Genuine peer)
      (forwards : (world.life peer.entry).Forwards world.config.maxPendingWriteBytes call next)
      (asks : world.Asks peer.entry call)
      (quiet : (world.setLife peer.entry next).Quiet ((world.life peer.entry).freedBy call)
        charge ready) :
      Grain may world (ready.push (.engineCalled (some peer.entry) peer.handle call))
  | retained {world after : World σ Mark} {peer : Peer} {references : Nat} {next : Lifecycle}
      {charge : Counter → Nat} (genuine : world.Genuine peer)
      (taken : (world.life peer.entry).retain = .ok (references, next))
      (quiet : (world.setLife peer.entry next).Quiet [] charge after)
      (closes : after.Closes (.socket peer.entry .retain) (.count references)) :
      Grain may world (after.push (.marked (.replied (.socket peer.entry .retain)
        (.count references))))
  | released {world after : World σ Mark} {peer : Peer} {outcome : Option Teardown × Lifecycle}
      {charge : Counter → Nat} (genuine : world.Genuine peer)
      (given : (world.life peer.entry).release = .ok outcome)
      (quiet : (world.concluded peer outcome).Quiet (outcome.1.toList.flatMap Teardown.hooks)
        charge after)
      (closes : after.Closes (.socket peer.entry .release) .done) :
      Grain may world (after.push (.marked (.replied (.socket peer.entry .release) .done)))
  | unreleased {world after : World σ Mark} {peer : Peer} {refusal : Refusal}
      {charge : Counter → Nat} (genuine : world.Genuine peer)
      (refused : (world.life peer.entry).release = .error refusal)
      (quiet : world.Quiet [] charge after)
      (closes : after.Closes (.socket peer.entry .release)
        (.rejected (refusal.toError peer.handle))) :
      Grain may world (after.push (.marked (.replied (.socket peer.entry .release)
        (.rejected (refusal.toError peer.handle)))))

/-- Any number of grains. -/
abbrev Trail (may : Latitude σ) : World σ Mark → World σ Mark → Prop :=
  Relation.ReflTransGen (Grain may)

variable {may : Latitude σ}

/-- What is left out of a grain makes a stride. -/
theorem Grain.stride (grain : Grain may world after) : Stride world after := by
  cases grain with
  | rearranged => exact .plain (.amid _)
  | quiet quiet => exact .plain quiet.toPlain
  | asked asking =>
      refine .plain (.push (fun id => ?_) ?_) <;>
        obtain ⟨_, _, rfl⟩ | ⟨_, _, _, _, rfl⟩ | ⟨_, _, rfl⟩ := Moment.asking_cases asking <;> rfl
  | loosed _ quiet => exact .plain quiet.toPlain
  | begun => exact .plain (.push (fun _ => rfl) rfl)
  | ended _ untold noLapse => exact .plain (.push untold noLapse)
  | registered inserted quiet => exact .registered inserted quiet.toPlain
  | called genuine accepts _ _ quiet attached =>
      exact .called genuine accepts quiet.toPlain attached
  | missed genuine misses quiet => exact .missed genuine misses quiet.toPlain
  | opened genuine begun => exact .opened genuine begun (.push (fun _ => rfl) rfl)
  | settled genuine given quiet => exact .settled genuine given quiet.toPlain
  | forwarded genuine forwards _ quiet => exact .forwarded genuine forwards quiet.toPlain
  | retained genuine taken quiet => exact .retained genuine taken quiet.toPlain
  | released genuine given quiet => exact .released genuine given quiet.toPlain
  | unreleased genuine refused quiet => exact .unreleased genuine refused quiet.toPlain

namespace Trail

theorem path (trail : Trail may world after) : Path world after :=
  Relation.ReflTransGen.mono (fun _ _ => Grain.stride) _ _ trail

theorem sound (trail : Trail may world after) (sound : world.Sound) : after.Sound :=
  trail.path.sound sound

theorem genuine (trail : Trail may world after) {peer : Peer} (genuine : world.Genuine peer) :
    after.Genuine peer :=
  trail.path.genuine genuine

/-- What every grain keeps in sound books holds along a trail. -/
theorem invariant {holds : World σ Mark → Prop} (trail : Trail may world after)
    (sound : world.Sound) (begins : holds world)
    (keeps : ∀ {before after : World σ Mark}, before.Sound → holds before →
      Grain may before after → holds after) : holds after := by
  induction trail with
  | refl => exact begins
  | tail trail grain inductionHypothesis =>
      exact keeps (Trail.sound trail sound) inductionHypothesis grain

end Trail

end Grains

end TransportBridge
