import TransportBridge.Conformance.Harness
import TransportBridge.Proofs.Compartments

/-!
Contract: a stage with one connection, and what the bridge does on it.

A scene is what there is to see of a harness with one connection: its lifecycle,
what its target has recorded, whether its handle is bound, and how often it was
disposed of. The runtime works, the engine does not echo, and nobody has turns to
play, so that every computation of the bridge leads from one scene to another.

Owns: scenes, the laws of leading from scene to scene, and where the bridge's
own computations lead.

Does not own: the order in which a session takes its steps.
-/

namespace TransportBridge

namespace Session

structure Scene where
  handle : Handle
  life : Lifecycle
  recording : Recording
  bound : Bool
  disposals : Nat

namespace Scene

/-- The only connection. -/
def peer (scene : Scene) : Peer :=
  ⟨⟨0⟩, scene.handle⟩

/-- The scene is set in a world. -/
structure Set (scene : Scene) (world : World Stage Act) : Prop where
  entries : world.entries = #[⟨scene.handle, ⟨0⟩, scene.life⟩]
  bindings : world.own.registry.bindings = if scene.bound then [(scene.handle, ⟨0⟩)] else []
  disposals : world.own.metrics.disposed = scene.disposals
  works : world.runtime.Works
  cast : world.host.cast = #[⟨some "", scene.recording, []⟩]
  engineTurns : world.host.engineTurns = []
  atHand : world.host.atHand = [⟨0⟩]
  silent : world.host.engine.echoesClosed = false

namespace Set

variable {scene : Scene} {world : World Stage Act}

theorem entry? (set : scene.Set world) :
    world.entry? ⟨0⟩ = some ⟨scene.handle, ⟨0⟩, scene.life⟩ := by
  unfold World.entry?
  rw [set.entries]
  rfl

theorem life (set : scene.Set world) : world.life ⟨0⟩ = scene.life :=
  World.life_of_entry set.entry?

theorem setLife (set : scene.Set world) (life : Lifecycle) :
    Set { scene with life } (world.setLife ⟨0⟩ life) where
  entries := by
    unfold World.setLife
    rw [set.entries]
    rfl
  bindings := set.bindings
  disposals := set.disposals
  works := set.works
  cast := set.cast
  engineTurns := set.engineTurns
  atHand := set.atHand
  silent := set.silent

theorem lookup? (set : scene.Set world) (bound : scene.bound = true) :
    world.own.registry.lookup? scene.handle = some ⟨0⟩ := by
  unfold Registry.lookup?
  rw [set.bindings, if_pos bound]
  exact List.lookup_cons_self

theorem peer? (set : scene.Set world) (bound : scene.bound = true) :
    world.peer? scene.handle = some scene.peer := by
  unfold World.peer?
  rw [set.lookup? bound]
  rfl

theorem isHeld (set : scene.Set world) (bound : scene.bound = true) :
    Custody.isHeld world ⟨0⟩ = true := by
  have binds : world.binds ⟨0⟩ = true := by
    unfold World.binds
    rw [set.entry?]
    show (world.own.registry.lookup? scene.handle == some ⟨0⟩) = true
    rw [set.lookup? bound]
    rfl
  unfold Custody.isHeld
  rw [binds]
  rfl

theorem role? (set : scene.Set world) :
    world.host.role? ⟨0⟩ = some ⟨some "", scene.recording, []⟩ := by
  unfold Stage.role?
  rw [set.cast]
  rfl

theorem recorded (set : scene.Set world) :
    (recordingOf ⟨0⟩ world).1 = .ok scene.recording := by
  show Except.ok (((world.host.role? ⟨0⟩).map (·.recording)).getD {}) = _
  rw [set.role?]
  rfl

end Set

/-- The target has recorded an event of the connection. -/
def recorded (scene : Scene) (event : SocketEvent) : Scene :=
  { scene with recording := scene.recording.record scene.peer event }

/-- The target knows no other connection. -/
def KnowsItself (scene : Scene) : Prop :=
  ∀ peer, scene.recording.peer = some peer → peer.entry = ⟨0⟩

/-- Letting the connection go changes nothing: its handle holds it, or there is
nothing to give up. -/
def Lingers (scene : Scene) : Prop :=
  scene.bound = true ∨ scene.life.abandon = (([], none), scene.life)

end Scene

/-! ## Leading from scene to scene -/

/-- Wherever the scene is set, the computation ends with the result and has set
the next one. -/
def Leads {α : Type} (scene : Scene) (body : SessionM α) (result : α) (next : Scene) : Prop :=
  ∀ world, scene.Set world → ∃ after, body world = (.ok result, after) ∧ next.Set after

/-- The call is not rejected, and leads to the next scene. -/
abbrev Grants {α : Type} (scene : Scene) (call : Call Stage Act α) (result : α)
    (next : Scene) : Prop :=
  Leads scene call.run (.ok result) next

section Leading

variable {α β : Type} {scene middle next : Scene} {result : α} {last : β}

namespace Leads

theorem pure (result : α) : Leads scene (pure result : SessionM α) result scene :=
  fun world set => ⟨world, rfl, set⟩

theorem bind {first : SessionM α} {rest : α → SessionM β} (began : Leads scene first result middle)
    (ended : Leads middle (rest result) last next) : Leads scene (first >>= rest) last next := by
  intro world set
  obtain ⟨mid, ran, set⟩ := began world set
  obtain ⟨after, went, set⟩ := ended mid set
  exact ⟨after, (bind_of_ok ran).trans went, set⟩

theorem look {rest : World Stage Act → SessionM β}
    (ended : ∀ world, scene.Set world → Leads scene (rest world) last next) :
    Leads scene (get >>= rest) last next :=
  fun world set => ended world set world set

theorem modify {step : World Stage Act → World Stage Act}
    (sets : ∀ world, scene.Set world → next.Set (step world)) :
    Leads scene (modify step : SessionM Unit) () next :=
  fun world set => ⟨step world, rfl, sets world set⟩

theorem witness (moment : Moment Act) : Leads scene (witness moment) () scene :=
  .modify fun _ set => { set with }

theorem note (notice : Notice) : Leads scene (note notice) () scene :=
  .witness (.noted notice)

theorem count {change : Metrics → Metrics}
    (spares : ∀ metrics, (change metrics).disposed = metrics.disposed) :
    Leads scene (count .own change) () scene :=
  .modify fun world set => { set with disposals := (spares world.own.metrics).trans set.disposals }

theorem getStage {rest : Stage → SessionM β}
    (ended : ∀ world, scene.Set world → Leads scene (rest world.host) last next) :
    Leads scene (getStage >>= rest) last next :=
  fun world set => ended world set world set

theorem changeStage {step : Stage → α × Stage}
    (sets : ∀ world, scene.Set world → (step world.host).1 = result ∧
      next.Set { world with host := (step world.host).2 }) :
    Leads scene (changeStage step) result next := by
  intro world set
  obtain ⟨rfl, set⟩ := sets world set
  exact ⟨_, rfl, set⟩

theorem attempt {step : Lifecycle → Lifecycle.Step α} {life : Lifecycle}
    (taken : step scene.life = .ok (result, life)) :
    Leads scene (attempt ⟨0⟩ step) (.ok result) { scene with life } := by
  intro world set
  refine ⟨world.setLife ⟨0⟩ life, ?_, set.setLife life⟩
  unfold TransportBridge.attempt
  rw [set.life, taken]

theorem attempt_refused {step : Lifecycle → Lifecycle.Step α} {refusal : Refusal}
    (refused : step scene.life = .error refusal) :
    Leads scene (TransportBridge.attempt ⟨0⟩ step) (.error refusal) scene := by
  intro world set
  refine ⟨world, ?_, set⟩
  unfold TransportBridge.attempt
  rw [set.life, refused]

theorem change {step : Lifecycle → α × Lifecycle} {life : Lifecycle}
    (taken : step scene.life = (result, life)) :
    Leads scene (change ⟨0⟩ step) result { scene with life } := by
  intro world set
  refine ⟨world.setLife ⟨0⟩ life, ?_, set.setLife life⟩
  unfold TransportBridge.change
  rw [set.life, taken]

theorem ensuring {body : SessionM α} {cleanup : SessionM Unit}
    (ran : Leads scene body result middle) (cleaned : Leads middle cleanup () next) :
    Leads scene (ensuring body cleanup) result next := by
  intro world set
  obtain ⟨mid, ran, set⟩ := ran world set
  obtain ⟨after, cleaned, set⟩ := cleaned mid set
  exact ⟨after, ensuring_of_ok ran cleaned, set⟩

theorem onPanic {body : SessionM α} (ran : Leads scene body result next) (cleanup : SessionM Unit) :
    Leads scene (onPanic body cleanup) result next := by
  intro world set
  obtain ⟨after, ran, set⟩ := ran world set
  exact ⟨after, onPanic_of_ok ran, set⟩

theorem dropBuffer (buffer : NativeBuffer Hook) : Leads scene (dropBuffer buffer) () scene := by
  unfold TransportBridge.dropBuffer
  induction buffer.dropped with
  | nil => exact .pure ()
  | cons hook rest inductionHypothesis => exact .bind (.witness _) inductionHypothesis

theorem dropBuffers (buffers : List (NativeBuffer Hook)) :
    Leads scene (buffers.forM TransportBridge.dropBuffer) () scene := by
  induction buffers with
  | nil => exact .pure ()
  | cons buffer rest inductionHypothesis => exact .bind (.dropBuffer buffer) inductionHypothesis

end Leads

namespace Grants

theorem pure (result : α) : Grants scene (pure result) result scene :=
  Leads.pure _

theorem bind {first : Call Stage Act α} {rest : α → Call Stage Act β}
    (began : Grants scene first result middle) (ended : Grants middle (rest result) last next) :
    Grants scene (first >>= rest) last next :=
  Leads.bind began ended

theorem look {rest : World Stage Act → Call Stage Act β}
    (ended : ∀ world, scene.Set world → Grants scene (rest world) last next) :
    Grants scene (get >>= rest) last next :=
  fun world set => ended world set world set

theorem effect {body : SessionM α} (ran : Leads scene body result next) :
    Grants scene (effect body) result next := by
  intro world set
  obtain ⟨after, ran, set⟩ := ran world set
  exact ⟨after, effect_of_ok ran, set⟩

end Grants

end Leading

/-! ## Holds and contexts -/

section Holds

variable {α : Type} {scene next : Scene} {result : α}

theorem letGo_leads (lingers : scene.Lingers) : Leads scene (Custody.letGo ⟨0⟩) () scene := by
  intro world set
  by_cases held : Custody.isHeld world ⟨0⟩ = true
  · exact ⟨world, Custody.letGo_of_isHeld held, set⟩
  · have abandoned : scene.life.abandon = (([], none), scene.life) := by
      rcases lingers with bound | abandoned
      · exact absurd (set.isHeld bound) held
      · exact abandoned
    refine ⟨world.setLife ⟨0⟩ scene.life, ?_, set.setLife scene.life⟩
    show Custody.letGoWithin (world.entries.size + 1) ⟨0⟩ world = _
    unfold Custody.letGoWithin
    show (if Custody.isHeld world ⟨0⟩ = true then _ else _ : SessionM Unit) world = _
    rw [if_neg held]
    have changed : change ⟨0⟩ Lifecycle.abandon world =
        (.ok ([], none), world.setLife ⟨0⟩ scene.life) := by
      unfold change
      rw [set.life, abandoned]
    exact bind_of_ok changed

/-- The target's recording is at hand, whoever lets the target go. -/
theorem letGoOfTarget_leads : Leads scene (Custody.letGoOfTarget ⟨0⟩) () scene := by
  intro world set
  refine ⟨world, ?_, set⟩
  have kept : Custody.forgetTarget ⟨0⟩ world = (.ok none, world) := by
    unfold Custody.forgetTarget
    by_cases keeps : world.keeps ⟨0⟩ = true
    · rw [if_pos keeps]
    · have remembered : world.host.remembers ⟨0⟩ = true := by
        unfold Stage.remembers
        rw [set.atHand]
        exact Bool.or_true _
      have forgets : Custodian.forget ⟨0⟩ world.host = (none, world.host) := by
        show Stage.forget ⟨0⟩ world.host = _
        unfold Stage.forget
        rw [remembered, Bool.or_true, if_pos rfl]
      rw [if_neg keeps, forgets]
  exact bind_of_ok kept

theorem holding_leads {body : SessionM α} (ran : Leads scene body result next)
    (lingers : next.Lingers) : Leads scene (Custody.holding ⟨0⟩ body) result next :=
  .ensuring (.bind (.modify fun _ set => { set with }) ran)
    (.bind (.modify fun _ set => { set with }) (letGo_leads lingers))

theorem holdingTarget_leads {body : SessionM α} (ran : Leads scene body result next) :
    Leads scene (Custody.holdingTarget ⟨0⟩ body) result next :=
  .ensuring (.bind (.modify fun _ set => { set with }) ran)
    (.bind (.modify fun _ set => { set with }) letGoOfTarget_leads)

theorem drop_leads (held : AttachGuard) : Leads scene (Attachment.drop held) () scene := by
  intro world set
  obtain ⟨after, dropped, gone⟩ := Attachment.drop_runs held world
  have detached : scene.Set (world.runtimeSet (world.runtime.detach world.thread).2) :=
    { set with works := set.works.detach world.thread }
  refine ⟨after, dropped, ?_⟩
  cases gone with
  | found => exact set
  | detached => exact detached
  | noted => exact { detached with }

/-- There is always a context to be had. -/
theorem withAttachedContext_leads {body : SessionM α} (ran : Leads scene body result next)
    (operation : String) :
    Leads scene (Attachment.withAttachedContext operation fun _ => body) (.ok result) next := by
  intro world set
  obtain ⟨held, taken, attaching, still, runs⟩ :=
    Attachment.course_of_works set.works operation
  have ready : scene.Set taken.faultTaken := by
    cases attaching <;> exact { set with works := still }
  obtain ⟨after, guarded, set⟩ := (Leads.ensuring ran (drop_leads held)) _ ready
  exact ⟨after, (runs fun _ => body).trans (bind_of_ok guarded), set⟩

end Holds

/-! ## The engine and the target -/

section Stagehands

open References Registration

variable {α : Type} {scene next : Scene} {run : Runner}

/-- Nobody has a turn to play. -/
theorem callEngine_leads (bound : scene.bound = true) (call : EngineCall) :
    Leads scene (callEngine run scene.handle call) () scene := by
  have recorded : Leads scene (updateStage fun stage =>
      { stage with engine := stage.engine.record scene.handle call }) () scene :=
    .changeStage fun _ set => ⟨rfl, { set with }⟩
  have unechoed (error : ErrorRecord) : Leads scene (echo run scene.handle error) () scene := by
    refine .getStage fun world set => ?_
    rw [set.silent]
    exact .pure ()
  have turn : Leads scene (changeStage (·.takeEngineTurn (.ofCall call))) [] scene := by
    refine .changeStage fun world set => ?_
    have taken : world.host.takeEngineTurn (.ofCall call) =
        ([], { world.host with engineTurns := [] }) := by
      unfold Stage.takeEngineTurn
      rw [set.engineTurns]
      rfl
    rw [taken]
    exact ⟨rfl, { set with engineTurns := rfl }⟩
  unfold callEngine
  refine .bind recorded ?_
  cases call with
  | closed error =>
      refine .bind (unechoed error) (.bind turn (.look fun world set => ?_))
      rw [set.peer? bound]
      exact holding_leads (.pure ()) (.inl bound)
  | _ =>
      refine .bind turn (.look fun world set => ?_)
      rw [set.peer? bound]
      exact holding_leads (.pure ()) (.inl bound)

theorem forwardFor_leads (bound : scene.bound = true) (call : EngineCall) :
    Leads scene (Socket.forwardFor (host run) scene.peer call) () scene :=
  .bind (.witness _) (callEngine_leads bound call)

theorem recordEvent_leads (bound : scene.bound = true) (knows : scene.KnowsItself)
    (event : SocketEvent) :
    Leads scene (recordEvent scene.peer ⟨0⟩ event) () (scene.recorded event) := by
  have recorded : Leads scene (changeStage fun stage =>
      ((stage.role? ⟨0⟩).bind (·.recording.peer), stage.record ⟨0⟩ scene.peer event))
      scene.recording.peer (scene.recorded event) := by
    refine .changeStage fun world set => ⟨?_, { set with cast := ?_ }⟩
    · rw [set.role?]
      rfl
    · unfold Stage.record
      rw [set.cast]
      rfl
  refine .bind recorded ?_
  cases known : scene.recording.peer with
  | none => exact .pure ()
  | some peer =>
      have itself : peer.entry = ⟨0⟩ := knows peer known
      show Leads _ (Custody.letGo peer.entry) _ _
      rw [itself]
      exact letGo_leads (.inl bound)

/-- The target records the event, and its reply, if any, leads on. -/
theorem callTarget_leads (bound : scene.bound = true) (knows : scene.KnowsItself)
    {event : SocketEvent}
    (silent : scene.recording.reply? event = none → next = scene.recorded event)
    (replies : ∀ reply, scene.recording.reply? event = some reply → ∃ answer,
      Leads (scene.recorded event) (run (some scene.peer) (.socket .self reply)) answer next) :
    Leads scene (callTarget run scene.peer ⟨0⟩ event) () next := by
  have told : Leads scene (tellTarget run scene.peer ⟨0⟩ event) () next := by
    unfold tellTarget
    refine .getStage fun world set => ?_
    have reply : world.host.reply? ⟨0⟩ event = scene.recording.reply? event := by
      unfold Stage.reply?
      rw [set.role?]
      rfl
    rw [reply]
    refine .bind (recordEvent_leads bound knows event) ?_
    cases replied : scene.recording.reply? event with
    | none =>
        rw [silent replied]
        exact .pure ()
    | some reply =>
        obtain ⟨answer, ran⟩ := replies reply replied
        exact .bind ran (.pure ())
  have turn : Leads next (changeStage (·.takeTargetTurn ⟨0⟩ event.kind)) [] next := by
    refine .changeStage fun world set => ?_
    have taken : world.host.takeTargetTurn ⟨0⟩ event.kind = ([], { world.host with
        cast := #[⟨some "", next.recording, []⟩] }) := by
      unfold Stage.takeTargetTurn
      rw [set.role?, set.cast]
      rfl
    rw [taken]
    exact ⟨rfl, { set with cast := rfl }⟩
  exact .bind told (.bind turn (.pure ()))

theorem settle_leads {call : Call Stage Act α} {result : α}
    (granted : Grants scene call result next) (answer : α → Answer) :
    Leads scene (settle call answer) (answer result) next :=
  .bind granted (.pure _)

/-- A reply is a call that the connection makes. -/
theorem exec_leads {depth : Nat} {call : SocketCall} {result : Option Nat}
    (granted : Grants scene (Socket.invoke (host (exec depth)) scene.peer call) result next)
    (lingers : next.Lingers) :
    Leads scene (exec (depth + 1) (some scene.peer) (.socket .self call)) (countOrDone result)
      next :=
  .bind (.pure (some scene.peer)) (holding_leads (settle_leads granted _) lingers)

/-! ## Checks and deliveries -/

theorem checked_leads {step : Lifecycle → Lifecycle.Step α} {result : α} {life : Lifecycle}
    (taken : step scene.life = .ok (result, life)) :
    Grants scene (checked .own scene.peer step) result { scene with life } :=
  .bind (.effect (.attempt taken)) (.pure result)

theorem report_leads (error : BridgeError) :
    Leads scene (report .own error) error scene := by
  unfold report
  by_cases broken : error.isInvariantViolation = true
  · rw [if_pos broken]
    exact .bind (.count fun _ => rfl) (.bind (.note _) (.pure error))
  · rw [if_neg broken]
    exact .bind (.note _) (.pure error)

theorem checked_refused {step : Lifecycle → Lifecycle.Step α} {refusal : Refusal}
    (refused : step scene.life = .error refusal) :
    Leads scene (checked .own scene.peer step).run (.error (refusal.toError scene.handle))
      scene := by
  intro world set
  obtain ⟨mid, ran, set⟩ := Leads.attempt_refused refused world set
  obtain ⟨after, reported, set⟩ := report_leads (refusal.toError scene.handle) mid set
  exact ⟨after, (effectBind_of_ok ran).trans (effectBind_of_ok reported), set⟩

theorem deliver_leads {event : SocketEvent}
    (called : Leads scene (callTarget run scene.peer ⟨0⟩ event) () next) :
    Grants scene (Delivery.deliver (host run) scene.peer ⟨0⟩ event) () next := by
  have invoked : Leads scene (Delivery.invoke (host run) scene.peer ⟨0⟩ event) () next :=
    .look fun _ _ => .bind (.witness _) called
  have told := holdingTarget_leads (withAttachedContext_leads invoked event.name)
  exact .look fun _ _ => .bind (.effect (.note _))
    (.bind (.effect told) (.effect (.count fun _ => rfl)))

theorem deliverOr_leads {event : SocketEvent} {undo : SessionM Unit}
    (called : Leads scene (callTarget run scene.peer ⟨0⟩ event) () next) :
    Grants scene (Delivery.deliverOr (host run) scene.peer ⟨0⟩ event undo) () next :=
  .bind (.effect (deliver_leads called)) (.pure ())

theorem lookup_leads (bound : scene.bound = true) (event : EventKind) :
    Grants scene (lookup scene.handle event) scene.peer scene := by
  refine .look fun world set => ?_
  rw [set.peer? bound]
  exact .pure scene.peer

theorem noteIfAny_leads (notice : Option Notice) :
    Leads scene (Delivery.noteIfAny notice) () scene := by
  cases notice with
  | none => exact .pure ()
  | some notice => exact .note notice

/-! ## The end of the connection -/

theorem teardown_leads (bound : scene.bound = true)
    (given : scene.life.abandon = (([], none), scene.life)) :
    Leads scene (teardown .own scene.handle ⟨some ⟨0⟩, []⟩) ()
      { scene with bound := false, disposals := scene.disposals + 1 } := by
  have unbound : Leads scene (unbind .own scene.handle) (some ⟨0⟩)
      { scene with bound := false } := by
    intro world set
    refine ⟨_, congrArg (fun found => (Except.ok found, _)) (set.lookup? bound), ?_⟩
    refine { set with bindings := ?_ }
    show world.own.registry.bindings.filter (·.1 ≠ scene.handle) = []
    rw [set.bindings, if_pos bound]
    simp
  have unregistered : Leads scene (unregister .own scene.handle) true
      { scene with bound := false } :=
    .bind unbound (.bind (letGo_leads (.inr given)) (.pure true))
  have counted : Leads { scene with bound := false } (count .own Metrics.countDisposed) ()
      { scene with bound := false, disposals := scene.disposals + 1 } :=
    .modify fun _ set => { set with disposals := congrArg (· + 1) set.disposals }
  exact .bind unregistered (.bind letGoOfTarget_leads
    (.bind (.dropBuffers []) (.bind counted (.note _))))

end Stagehands

end Session

end TransportBridge
