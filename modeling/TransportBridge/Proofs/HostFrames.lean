import TransportBridge.Proofs.Effects

/-!
Contract: what the bridge leaves to the host.

The bridge touches the host's state where it calls it, and where it has a target
forget what it knew, and nowhere else. A relation of the host's states that these
keep is kept by all that the bridge does, however it ends.

Owns: frames of the host's state, the rules of sequencing and of cleaning up, and
that entry points and calls keep a frame that their callbacks and engine calls
keep.

Does not own: reports of received bytes, which are told to whatever target is
pinned when they come in.
-/

namespace TransportBridge

variable {σ μ α β : Type}

/-- A relation of the host's states that goes on along a run and outlasts
forgetting. -/
structure HostFrame (σ : Type) [Custodian σ] where
  Rel : σ → σ → Prop
  refl : ∀ host, Rel host host
  trans : ∀ {one two three}, Rel one two → Rel two three → Rel one three
  forgets : ∀ target host, Rel host (Custodian.forget target host).2

namespace HostFrame

variable [Custodian σ]

/-- The host's states before and after are related, however the computation
ends. -/
def KeepsAt (frame : HostFrame σ) (world : World σ μ) (body : BridgeM σ μ α) : Prop :=
  frame.Rel world.host (body world).2.host

/-- So they are, wherever it starts. -/
def Keeps (frame : HostFrame σ) (body : BridgeM σ μ α) : Prop :=
  ∀ world, frame.KeepsAt world body

/-- The same for a call. -/
abbrev Spares (frame : HostFrame σ) (call : Call σ μ α) : Prop :=
  frame.Keeps call.run

variable {frame : HostFrame σ}

namespace KeepsAt

variable {world : World σ μ}

theorem along {body : BridgeM σ μ α} {outcome : Except Panic α} {after : World σ μ}
    (kept : frame.KeepsAt world body) (ran : body world = (outcome, after)) :
    frame.Rel world.host after.host := by
  unfold KeepsAt at kept
  rwa [ran] at kept

theorem bind {first : BridgeM σ μ α} {next : α → BridgeM σ μ β} (one : frame.KeepsAt world first)
    (two : ∀ result middle, first world = (.ok result, middle) →
      frame.KeepsAt middle (next result)) : frame.KeepsAt world (first >>= next) := by
  unfold KeepsAt
  cases began : first world with
  | mk outcome middle =>
      cases outcome with
      | error panic =>
          rw [bind_of_error began]
          exact one.along began
      | ok result =>
          rw [bind_of_ok began]
          exact frame.trans (one.along began) (two result middle began)

theorem callBind {first : Call σ μ α} {next : α → Call σ μ β}
    (one : frame.KeepsAt world first.run)
    (two : ∀ result middle, first world = (.ok (.ok result), middle) →
      frame.KeepsAt middle (next result).run) : frame.KeepsAt world (first >>= next).run := by
  refine KeepsAt.bind one fun answer middle ran => ?_
  cases answer with
  | error error => exact frame.refl middle.host
  | ok result => exact two result middle ran

theorem ensuring {body : BridgeM σ μ α} {cleanup : BridgeM σ μ Unit}
    (one : frame.KeepsAt world body) (two : ∀ middle, frame.KeepsAt middle cleanup) :
    frame.KeepsAt world (ensuring body cleanup) := by
  unfold KeepsAt TransportBridge.ensuring
  cases ran : body world with
  | mk outcome middle =>
      cases done : cleanup middle with
      | mk ended last =>
          have cleaned := frame.trans (one.along ran) ((two middle).along done)
          cases outcome <;> cases ended <;> simpa only [done] using cleaned

end KeepsAt

namespace Keeps

/-- The host is let be. -/
theorem aside {body : BridgeM σ μ α} (same : ∀ world, (body world).2.host = world.host) :
    frame.Keeps body := by
  intro world
  unfold KeepsAt
  rw [same]
  exact frame.refl world.host

theorem pure (result : α) : frame.Keeps (pure result : BridgeM σ μ α) :=
  .aside fun _ => rfl

theorem throw (panic : Panic) : frame.Keeps (throw panic : BridgeM σ μ α) :=
  .aside fun _ => rfl

theorem bind {first : BridgeM σ μ α} {next : α → BridgeM σ μ β} (one : frame.Keeps first)
    (two : ∀ result, frame.Keeps (next result)) : frame.Keeps (first >>= next) :=
  fun world => .bind (one world) fun result middle _ => two result middle

theorem look {next : World σ μ → BridgeM σ μ α} (rest : ∀ world, frame.Keeps (next world)) :
    frame.Keeps (get >>= next) :=
  fun world => rest world world

theorem modify {step : World σ μ → World σ μ} (same : ∀ world, (step world).host = world.host) :
    frame.Keeps (modify step : BridgeM σ μ Unit) :=
  .aside same

theorem witness (moment : Moment μ) : frame.Keeps (witness moment) :=
  .modify fun _ => rfl

theorem note (notice : Notice) : frame.Keeps (note notice : BridgeM σ μ Unit) :=
  .witness (.noted notice)

theorem count (book : Book) (change : Metrics → Metrics) :
    frame.Keeps (count book change : BridgeM σ μ Unit) := by
  refine .modify fun world => ?_
  cases book <;> rfl

theorem attempt (id : EntryId) (step : Lifecycle → Lifecycle.Step α) :
    frame.Keeps (attempt id step : BridgeM σ μ (Except Refusal α)) := by
  refine .aside fun world => ?_
  unfold TransportBridge.attempt
  split <;> rfl

theorem change (id : EntryId) (step : Lifecycle → α × Lifecycle) :
    frame.Keeps (change id step : BridgeM σ μ α) :=
  .aside fun _ => rfl

theorem forM {each : α → BridgeM σ μ Unit} (kept : ∀ one, frame.Keeps (each one))
    (list : List α) : frame.Keeps (list.forM each) := by
  induction list with
  | nil => exact .pure ()
  | cons one rest inductionHypothesis => exact .bind (kept one) fun _ => inductionHypothesis

theorem optionForM {each : α → BridgeM σ μ Unit} (kept : ∀ one, frame.Keeps (each one))
    (option : Option α) : frame.Keeps (option.forM each) := by
  cases option with
  | none => exact .pure ()
  | some one => exact kept one

theorem dropBuffer (buffer : NativeBuffer Hook) :
    frame.Keeps (dropBuffer buffer : BridgeM σ μ Unit) :=
  .forM (fun _ => .witness _) _

theorem ensuring {body : BridgeM σ μ α} {cleanup : BridgeM σ μ Unit} (one : frame.Keeps body)
    (two : frame.Keeps cleanup) : frame.Keeps (ensuring body cleanup) :=
  fun world => .ensuring (one world) two

theorem onPanic {body : BridgeM σ μ α} {cleanup : BridgeM σ μ Unit} (one : frame.Keeps body)
    (two : frame.Keeps cleanup) : frame.Keeps (onPanic body cleanup) := by
  intro world
  unfold KeepsAt TransportBridge.onPanic
  cases ran : body world with
  | mk outcome middle =>
      have began := (one world).along ran
      cases outcome with
      | error panic => exact frame.trans began (two middle)
      | ok result => exact began

end Keeps

namespace Spares

theorem pure (result : α) : frame.Spares (pure result : Call σ μ α) :=
  Keeps.pure _

theorem throw (error : BridgeError) : frame.Spares (throw error : Call σ μ α) :=
  Keeps.pure _

theorem bind {first : Call σ μ α} {next : α → Call σ μ β} (one : frame.Spares first)
    (two : ∀ result, frame.Spares (next result)) : frame.Spares (first >>= next) :=
  fun world => .callBind (one world) fun result middle _ => two result middle

theorem effect {body : BridgeM σ μ α} (kept : frame.Keeps body) :
    frame.Spares (TransportBridge.effect body) :=
  Keeps.bind kept fun _ => .pure _

theorem effectBind {first : BridgeM σ μ α} {next : α → Call σ μ β} (one : frame.Keeps first)
    (two : ∀ result, frame.Spares (next result)) :
    frame.Spares (TransportBridge.effect first >>= next) :=
  .bind (.effect one) two

theorem look {next : World σ μ → Call σ μ α} (rest : ∀ world, frame.Spares (next world)) :
    frame.Spares (get >>= next) :=
  fun world => rest world world

end Spares

/-! ## Holds, contexts and references -/

section Machinery

open Custody References Registration

theorem forgetTarget_keeps (target : TargetId) :
    frame.Keeps (forgetTarget target : BridgeM σ μ (Option EntryId)) := by
  intro world
  unfold KeepsAt forgetTarget
  by_cases keeps : world.keeps target = true
  · rw [if_pos keeps]
    exact frame.refl world.host
  · rw [if_neg keeps]
    exact frame.forgets target world.host

theorem letGoWithin_keeps (bound : Nat) (entry : EntryId) :
    frame.Keeps (letGoWithin bound entry : BridgeM σ μ Unit) := by
  induction bound generalizing entry with
  | zero => exact .pure ()
  | succ bound inductionHypothesis =>
      unfold letGoWithin
      refine .look fun world => ?_
      by_cases held : isHeld world entry = true
      · rw [if_pos held]
        exact .pure ()
      · rw [if_neg held]
        refine .bind (.change _ _) fun abandoned => .bind (.forM .dropBuffer _) fun _ => ?_
        cases abandoned.2 with
        | none => exact .pure ()
        | some target =>
            refine .bind (forgetTarget_keeps target) fun known => ?_
            cases known with
            | none => exact .pure ()
            | some next => exact inductionHypothesis next

theorem letGo_keeps (entry : EntryId) : frame.Keeps (letGo entry : BridgeM σ μ Unit) :=
  .look fun _ => letGoWithin_keeps _ entry

theorem letGoOfTarget_keeps (target : TargetId) :
    frame.Keeps (letGoOfTarget target : BridgeM σ μ Unit) := by
  refine .bind (forgetTarget_keeps target) fun known => ?_
  cases known with
  | none => exact .pure ()
  | some known => exact letGo_keeps known

theorem disengage_keeps (entry : EntryId) :
    frame.Keeps (do
      modify fun world : World σ μ => { world with engaged := world.engaged.erase entry }
      letGo entry) :=
  .bind (.modify fun _ => rfl) fun _ => letGo_keeps entry

theorem giveBack_keeps (target : TargetId) :
    frame.Keeps (do
      takeBack target
      letGoOfTarget target : BridgeM σ μ Unit) :=
  .bind (.modify fun _ => rfl) fun _ => letGoOfTarget_keeps target

theorem holding_keepsAt (entry : EntryId) {body : BridgeM σ μ α} {world : World σ μ}
    (kept : frame.KeepsAt { world with engaged := entry :: world.engaged } body) :
    frame.KeepsAt world (holding entry body) :=
  .ensuring kept (disengage_keeps entry)

theorem holding_keeps (entry : EntryId) {body : BridgeM σ μ α} (kept : frame.Keeps body) :
    frame.Keeps (holding entry body) :=
  fun _ => holding_keepsAt entry (kept _)

theorem holdingTarget_keeps (target : TargetId) {body : BridgeM σ μ α}
    (kept : frame.Keeps body) : frame.Keeps (holdingTarget target body) :=
  .ensuring (.bind (.modify fun _ => rfl) fun _ => kept) (giveBack_keeps target)

theorem lendingTarget_keeps (target : TargetId) {body : BridgeM σ μ α}
    (kept : frame.Keeps body) : frame.Keeps (lendingTarget target body) :=
  .onPanic (.bind (.modify fun _ => rfl) fun _ => .bind kept fun _ =>
    .bind (.modify fun _ => rfl) fun _ => .pure _) (giveBack_keeps target)

theorem fail_keeps (operation : String) (failure : AttachFailure) :
    frame.Keeps (Attachment.fail operation failure : BridgeM σ μ BridgeError) := by
  refine .bind (.count _ _) fun _ => ?_
  cases failure <;> exact .bind (.note _) fun _ => .pure _

theorem attach_keeps (operation : String) :
    frame.Keeps (Attachment.attach operation : BridgeM σ μ (Except BridgeError AttachGuard)) := by
  refine .look fun world => ?_
  cases world.runtime.threadStatus world.thread with
  | attached => exact .pure _
  | detached =>
      refine .bind (.aside fun _ => rfl) fun failure => ?_
      cases failure with
      | none => exact .pure _
      | some status => exact .bind (fail_keeps _ _) fun _ => .pure _
  | unavailable status => exact .bind (fail_keeps _ _) fun _ => .pure _

theorem drop_keeps (held : AttachGuard) :
    frame.Keeps (Attachment.drop held : BridgeM σ μ Unit) := by
  unfold Attachment.drop
  split
  · refine .bind (.aside fun _ => rfl) fun failure => ?_
    cases failure with
    | none => exact .pure ()
    | some status => exact .note _
  · exact .pure ()

theorem withAttachedContext_keeps (operation : String) {thunk : RuntimeContext → BridgeM σ μ α}
    (kept : ∀ context, frame.Keeps (thunk context)) :
    frame.Keeps (Attachment.withAttachedContext operation thunk) := by
  refine .bind (attach_keeps operation) fun attached => ?_
  cases attached with
  | error error => exact .pure _
  | ok held =>
      refine .bind (.aside fun _ => rfl) fun fault => ?_
      cases fault with
      | true => exact .bind (fail_keeps _ _) fun _ => .bind (drop_keeps held) fun _ => .pure _
      | false => exact .bind (.ensuring (kept _) (drop_keeps held)) fun _ => .pure _

theorem report_keeps (book : Book) (error : BridgeError) :
    frame.Keeps (report book error : BridgeM σ μ BridgeError) := by
  unfold report
  split
  · exact .bind (.count _ _) fun _ => .bind (.note _) fun _ => .pure _
  · exact .bind (.note _) fun _ => .pure _

theorem reject_spares (book : Book) (error : BridgeError) :
    frame.Spares (reject book error : Call σ μ α) :=
  .effectBind (report_keeps book error) fun _ => .throw _

theorem checked_spares (book : Book) (peer : Peer) (step : Lifecycle → Lifecycle.Step α) :
    frame.Spares (checked book peer step : Call σ μ α) := by
  refine .effectBind (.attempt _ _) fun answer => ?_
  cases answer with
  | ok result => exact .pure _
  | error refusal => exact reject_spares _ _

theorem unregister_keeps (book : Book) (handle : Handle) :
    frame.Keeps (unregister book handle : BridgeM σ μ Bool) := by
  have freed : frame.Keeps (unbind book handle : BridgeM σ μ (Option EntryId)) := by
    refine .aside fun world => ?_
    cases book <;> rfl
  refine .bind freed fun found => ?_
  cases found with
  | none => exact .pure _
  | some entry => exact .bind (letGo_keeps entry) fun _ => .pure _

theorem teardown_keeps (book : Book) (handle : Handle) (remains : Teardown) :
    frame.Keeps (teardown book handle remains : BridgeM σ μ Unit) := by
  refine .bind (unregister_keeps book handle) fun bound => ?_
  have rest : frame.Keeps (do
      remains.pin.forM letGoOfTarget
      remains.buffers.forM dropBuffer
      count book Metrics.countDisposed
      note (.disposed handle remains.buffers.length) : BridgeM σ μ Unit) :=
    .bind (.optionForM letGoOfTarget_keeps _) fun _ => .bind (.forM .dropBuffer _) fun _ =>
      .bind (.count _ _) fun _ => .note _
  cases bound with
  | true => exact rest
  | false => exact .bind (.note _) fun _ => .bind (.count _ _) fun _ => rest

theorem finish_spares (book : Book) (peer : Peer) (outcome : Option Teardown) :
    frame.Spares (finish book peer outcome : Call σ μ Unit) := by
  cases outcome with
  | none => exact .pure ()
  | some remains => exact .effect (teardown_keeps _ _ _)

theorem release_spares (book : Book) (peer : Peer) :
    frame.Spares (release book peer : Call σ μ Unit) :=
  .bind (checked_spares _ _ _) fun _ => finish_spares _ _ _

theorem releaseNative_spares (book : Book) (peer : Peer) :
    frame.Spares (releaseNative book peer : Call σ μ Unit) :=
  .bind (checked_spares _ _ _) fun _ => finish_spares _ _ _

theorem dropUnknown_spares (handle : Handle) (event : EventKind) :
    frame.Spares (dropUnknown handle event : Call σ μ α) :=
  .effectBind (.bind (.count _ _) fun _ => .note _) fun _ => .throw _

theorem lookup_spares (handle : Handle) (event : EventKind) :
    frame.Spares (lookup handle event : Call σ μ Peer) := by
  refine .look fun world => ?_
  cases world.peer? handle with
  | none => exact dropUnknown_spares _ _
  | some peer => exact .pure peer

theorem register_spares (handle : Handle) (target : TargetId) :
    frame.Spares (register handle target : Call σ μ Peer) := by
  have bound : frame.Keeps (bind? handle target : BridgeM σ μ (Option Peer)) := by
    refine .aside fun world => ?_
    unfold bind?
    dsimp only
    split <;> rfl
  refine .effectBind bound fun found => ?_
  cases found with
  | none => exact .effectBind (letGoOfTarget_keeps target) fun _ => reject_spares _ _
  | some peer =>
      refine .bind (checked_spares _ _ _) fun _ => .effectBind ?_ fun _ => .pure _
      exact .bind (.count _ _) fun _ => .note _

end Machinery

/-! ## What the bridge calls -/

/-- What the bridge calls keeps the frame, but for received bytes that are told to
certain targets, and bytes that are written to certain handles. -/
structure Heeded (frame : HostFrame σ) (ears : TargetId → Prop) (wires : Handle → Prop)
    (host : Host σ μ) : Prop where
  callback (peer : Peer) (target : TargetId) (event : SocketEvent)
      (spared : ears target → event.kind ≠ .received) :
      frame.Keeps (host.callback peer target event)
  createHandle (address : Address) (framing : Framing) :
      frame.Keeps (host.createHandle address framing)
  engine (handle : Handle) (call : EngineCall)
      (spared : wires handle → ∀ data, call ≠ .write data) :
      frame.Keeps (host.engine handle call)
  createTarget (factory : FactoryId) (handle : Handle) (address : Address) (options : Bytes) :
      frame.Keeps (host.createTarget factory handle address options)

namespace Heeded

variable {ears : TargetId → Prop} {wires : Handle → Prop} {host : Host σ μ}

open Registration

theorem forward (heeded : frame.Heeded ears wires host) (source : Option EntryId)
    (handle : Handle) {call : EngineCall} (spared : wires handle → ∀ data, call ≠ .write data) :
    frame.Keeps (Registration.forward host source handle call) :=
  .bind (.witness _) fun _ => heeded.engine handle call spared

theorem openOutbound (heeded : frame.Heeded ears wires host) (address : Address)
    (framing : Option Framing) (target : TargetId) :
    frame.Spares (Registration.openOutbound host address framing target) := by
  refine .look fun world => .effectBind (lendingTarget_keeps _ ?_) fun answer => ?_
  · exact .bind (.witness _) fun _ => heeded.createHandle _ _
  · cases answer with
    | error error =>
        exact .effectBind (.bind (.note _) fun _ => letGoOfTarget_keeps _) fun _ => .throw _
    | ok handle =>
        refine .effectBind (.note _) fun _ => .effectBind (register_spares _ _) fun outcome => ?_
        cases outcome with
        | ok peer => exact .pure peer
        | error error =>
            refine .effectBind (.bind (.note _) fun _ => ?_) fun _ => .throw _
            exact heeded.forward _ _ fun _ _ => nofun

theorem adoptFromFactory (heeded : frame.Heeded ears wires host) (handle : Handle)
    (address : Address) (options : Bytes) :
    frame.Spares (Registration.adoptFromFactory host handle address options) := by
  refine .look fun world => ?_
  cases world.factory with
  | none => exact dropUnknown_spares _ _
  | some factory =>
      refine .effectBind (.witness _) fun _ =>
        .effectBind (heeded.createTarget _ _ _ _) fun answer => ?_
      cases answer with
      | ok target => exact register_spares _ _
      | error error =>
          exact .effectBind (.bind (.count _ _) fun _ => .note _) fun _ => .throw _

end Heeded

/-! ## Deliveries -/

section Deliveries

open Delivery

variable {host : Host σ μ} {peer : Peer} {target : TargetId} {event : SocketEvent}

theorem invoke_keeps (told : frame.Keeps (host.callback peer target event)) :
    frame.Keeps (Delivery.invoke host peer target event) :=
  .look fun _ => .bind (.witness _) fun _ => told

theorem deliver_spares (told : frame.Keeps (host.callback peer target event)) :
    frame.Spares (deliver host peer target event) := by
  have context : frame.Keeps (Attachment.withAttachedContext event.name fun _ =>
      Delivery.invoke host peer target event) :=
    withAttachedContext_keeps _ fun _ => invoke_keeps told
  refine .look fun world => .effectBind (.note _) fun _ =>
    .effectBind (holdingTarget_keeps _ context) fun answer => ?_
  cases answer with
  | ok nothing => exact .effect (.count _ _)
  | error error => exact .effectBind (.bind (.count _ _) fun _ => .note _) fun _ => .throw _

theorem deliverOr_spares (told : frame.Keeps (host.callback peer target event))
    {undo : BridgeM σ μ Unit} (undone : frame.Keeps undo) :
    frame.Spares (deliverOr host peer target event undo) := by
  refine .effectBind (deliver_spares told) fun answer => ?_
  cases answer with
  | ok nothing => exact .pure ()
  | error error => exact .effectBind undone fun _ => .throw _

theorem thenDropping_spares (buffer : NativeBuffer Hook) {body : Call σ μ α}
    (kept : frame.Spares body) : frame.Spares (thenDropping buffer body) :=
  Keeps.ensuring kept (.dropBuffer buffer)

theorem enterReceived_spares (peer : Peer) (byteCount : Nat)
    (retained : Option (NativeBuffer Hook)) :
    frame.Spares (enterReceived peer byteCount retained : Call σ μ TargetId) := by
  refine .effectBind (.attempt _ _) fun answer => ?_
  cases answer with
  | ok target => exact .pure target
  | error refusal => exact .effectBind (.optionForM .dropBuffer _) fun _ => reject_spares _ _

end Deliveries

/-! ## Entry points and calls -/

namespace Heeded

variable {ears : TargetId → Prop} {wires : Handle → Prop} {host : Host σ μ}

open Delivery References Registration

/-- Whatever is told of, received bytes apart. -/
theorem callback_of_ne (heeded : frame.Heeded ears wires host) (peer : Peer) (target : TargetId)
    {event : SocketEvent} (other : event.kind ≠ .received) :
    frame.Keeps (host.callback peer target event) :=
  heeded.callback peer target event fun _ => other

theorem onOpen (heeded : frame.Heeded ears wires host) (handle : Handle) (address : Address)
    (options : NativeBuffer Hook) : frame.Spares (Delivery.onOpen host handle address options) := by
  unfold Delivery.onOpen
  split
  · exact thenDropping_spares _ (reject_spares _ _)
  · next bytes spent taken =>
      have opens (peer : Peer) : frame.Spares
          (Call.holding peer.entry (opening host handle address bytes peer)) := by
        refine holding_keeps _ ?_
        refine Spares.bind (checked_spares _ _ _) fun target => .bind ?_ fun _ => ?_
        · exact deliverOr_spares (heeded.callback_of_ne _ _ (by nofun)) (.change _ _)
        · refine .effectBind (.change _ _) fun opened => ?_
          cases opened with
          | true => exact .effect (.note _)
          | false => exact .pure ()
      refine thenDropping_spares _ (.look fun world => ?_)
      cases world.peer? handle with
      | some peer => exact opens peer
      | none => exact .bind (heeded.adoptFromFactory _ _ _) opens

theorem onWriteCompleted (heeded : frame.Heeded ears wires host) (handle : Handle)
    (byteCount : Nat) : frame.Spares (Delivery.onWriteCompleted host handle byteCount) :=
  .bind (lookup_spares _ _) fun _ => holding_keeps _ <|
    Spares.bind (checked_spares _ _ _) fun _ => deliver_spares (heeded.callback_of_ne _ _ nofun)

theorem onCloseRequest (heeded : frame.Heeded ears wires host) (handle : Handle) (status : Int)
    (message : Bytes) : frame.Spares (Delivery.onCloseRequest host handle status message) := by
  refine .bind (lookup_spares _ _) fun peer => holding_keeps _ ?_
  refine Spares.bind (checked_spares _ _ _) fun accepted => ?_
  obtain ⟨text, notice⟩ := decodeOrPlaceholder message
  exact .effectBind (.optionForM .note _) fun _ =>
    deliverOr_spares (heeded.callback_of_ne _ _ (by nofun)) (.change _ _)

theorem onClosed (heeded : frame.Heeded ears wires host) (handle : Handle) (domain code : Int)
    (message : Bytes) : frame.Spares (Delivery.onClosed host handle domain code message) := by
  refine .bind (lookup_spares _ _) fun peer => holding_keeps _ ?_
  refine Spares.effectBind (.optionForM .note _) fun _ =>
    .bind (checked_spares _ _ _) fun accepted => ?_
  refine .effectBind (.onPanic ?_ ?_) fun answer => ?_
  · exact deliver_spares (heeded.callback_of_ne _ _ (by nofun))
  · exact .bind (.note _) fun _ => .bind (releaseNative_spares _ _) fun _ => .pure _
  · cases answer with
    | ok nothing => exact releaseNative_spares _ _
    | error error => exact .effectBind (.change _ _) fun _ => .throw _

/-- The entry points, but for that of received bytes. -/
theorem dispatch (heeded : frame.Heeded ears wires host) (handle : Handle) {event : NativeEvent}
    (other : ∀ data, event ≠ .received data) :
    frame.Spares (Delivery.dispatch host handle event) := by
  cases event with
  | openRequest address options => exact heeded.onOpen _ _ _
  | writeCompleted byteCount => exact heeded.onWriteCompleted _ _
  | received data => exact absurd rfl (other data)
  | closeRequest status message => exact heeded.onCloseRequest _ _ _
  | closed domain code message => exact heeded.onClosed _ _ _ _

theorem forwardFor (heeded : frame.Heeded ears wires host) (peer : Peer) {call : EngineCall}
    (spared : wires peer.handle → ∀ data, call ≠ .write data) :
    frame.Keeps (Socket.forwardFor host peer call) :=
  heeded.forward _ _ spared

/-- The calls of the managed side, but for writes. -/
theorem invoke (heeded : frame.Heeded ears wires host) (peer : Peer) {call : SocketCall}
    (spared : wires peer.handle → ∀ data, call ≠ .write data) :
    frame.Spares (Socket.invoke host peer call) := by
  cases call with
  | opened =>
      refine .bind (.bind (checked_spares _ _ _) fun first => ?_) fun _ => .pure _
      cases first with
      | true => exact .effect (heeded.forwardFor _ fun _ _ => nofun)
      | false => exact .pure ()
  | httpResponse status headers =>
      exact .bind (.bind (checked_spares _ _ _) fun _ =>
        .effect (heeded.forwardFor _ fun _ _ => nofun)) fun _ => .pure _
  | write data =>
      refine .bind (.look fun world => .bind (checked_spares _ _ _) fun _ => ?_) fun _ => .pure _
      exact .effect (heeded.forwardFor _ fun wired _ _ => spared wired data rfl)
  | completedReceive byteCount =>
      exact .bind (.bind (checked_spares _ _ _) fun _ => .effectBind (.forM .dropBuffer _) fun _ =>
        .effect (heeded.forwardFor _ fun _ _ => nofun)) fun _ => .pure _
  | closeRequest status message =>
      exact .bind (.bind (checked_spares _ _ _) fun _ =>
        .effect (heeded.forwardFor _ fun _ _ => nofun)) fun _ => .pure _
  | closed error =>
      refine .effectBind (.bind (.change _ _) fun first => ?_) fun _ => .pure _
      cases first with
      | true => exact heeded.forwardFor _ fun _ _ => nofun
      | false => exact .note _
  | retain => exact .bind (checked_spares _ _ _) fun _ => .pure _
  | release => exact .bind (release_spares _ _) fun _ => .pure _

end Heeded

end HostFrame

end TransportBridge
