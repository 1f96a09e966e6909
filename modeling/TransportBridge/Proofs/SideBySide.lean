import TransportBridge.Proofs.Oblivious

/-!
Contract: the bridge looks neither back nor at its host.

The bridge calls the host in the same places whatever has been recorded before,
so that of two runs from a world and from a view of it, the second follows the
first, as long as the two hosts answer alike where they are called.

Owns: hosts side by side, and that every call of the bridge follows itself.

Does not own: user code that looks at the trace.
-/

namespace TransportBridge

variable {σ τ α β : Type}

/-! ## Hosts side by side -/

/-- A set of worlds with sound books that no stride leaves. -/
structure Enclosure (within : World σ Mark → Prop) : Prop where
  sound {world : World σ Mark} : within world → world.Sound
  stride {world after : World σ Mark} : within world → Stride world after → within after

namespace Enclosure

variable {within : World σ Mark → Prop} {world after : World σ Mark}

theorem of_sound : Enclosure (World.Sound : World σ Mark → Prop) :=
  ⟨id, fun sound stride => stride.sound sound⟩

/-- The worlds that paths lead to from one with sound books. -/
theorem of_path (sound : world.Sound) : Enclosure (Path world) :=
  ⟨fun path => path.sound sound, fun path stride => path.tail stride⟩

theorem path (encloses : Enclosure within) (inside : within world) (path : Path world after) :
    within after := by
  induction path with
  | refl => exact inside
  | tail _ stride inductionHypothesis => exact encloses.stride inductionHypothesis stride

theorem plain (encloses : Enclosure within) (inside : within world) (plain : world.Plain after) :
    within after :=
  encloses.stride inside (.plain plain)

theorem evolves (encloses : Enclosure within) (inside : within world)
    (evolves : world.Evolves after) : within after :=
  encloses.path inside evolves.path

end Enclosure

section Hosts

variable [Custodian σ] [Custodian τ]

/-- Inside an enclosure, the other host follows the one. -/
structure Host.Alike (view : View σ τ) (within : World σ Mark → Prop) (host : Host σ Mark)
    (other : Host τ Mark) : Prop where
  callback {world : World σ Mark} (inside : within world) (peer : Peer) (target : TargetId)
      (event : SocketEvent) :
      Follows view (host.callback peer target event) (other.callback peer target event) world
  createHandle {world : World σ Mark} (inside : within world) (address : Address)
      (framing : Framing) :
      Follows view (host.createHandle address framing) (other.createHandle address framing) world
  engine {world : World σ Mark} (inside : within world) (handle : Handle) (call : EngineCall) :
      Follows view (host.engine handle call) (other.engine handle call) world
  createTarget {world : World σ Mark} (inside : within world) (factory : FactoryId)
      (handle : Handle) (address : Address) (options : Bytes) :
      Follows view (host.createTarget factory handle address options)
        (other.createTarget factory handle address options) world

variable {view : View σ τ} {within : World σ Mark → Prop} {host : Host σ Mark}
  {other : Host τ Mark} {world : World σ Mark} {peer : Peer}

namespace References

/-- What follows a step that is taken, goes on in the next lifecycle. -/
theorem checked_follows {book : Book} {step : Lifecycle → Lifecycle.Step α}
    {rest : α → Call σ Mark β} {rest' : α → Call τ Mark β}
    (taken : ∀ result next, step (world.life peer.entry) = .ok (result, next) →
      Follows view (rest result).run (rest' result).run (world.setLife peer.entry next)) :
    Follows view (checked book peer step >>= rest).run (checked book peer step >>= rest').run
      world := by
  refine .callBind (checked_oblivious view book peer step world) fun result middle ran => ?_
  cases stepped : step (world.life peer.entry) with
  | error refusal =>
      obtain ⟨_, refused⟩ : ∃ after, checked book peer step world =
          (.ok (.error (refusal.toError peer.handle)), after) := checked_ends stepped
      cases refused.symm.trans ran
  | ok outcome =>
      cases (checked_of_ok stepped).symm.trans ran
      exact taken outcome.1 outcome.2 stepped

end References

namespace Registration

/-- A bound handle is found where it is. -/
theorem lookup_follows (sound : world.Sound) {handle : Handle} {event : EventKind}
    {rest : Peer → Call σ Mark α} {rest' : Peer → Call τ Mark α}
    (found : ∀ peer, world.Genuine peer → Follows view (rest peer).run (rest' peer).run world) :
    Follows view (lookup handle event >>= rest).run (lookup handle event >>= rest').run world := by
  refine .callBind (lookup_oblivious view handle event world) fun peer middle ran => ?_
  obtain ⟨rfl, genuine⟩ := found_of_lookup sound ran
  exact found peer genuine

theorem forward_follows (alike : host.Alike view within other) (encloses : Enclosure within)
    (inside : within world) (handle : Handle) (call : EngineCall) :
    Follows view (forward host none handle call) (forward other none handle call) world := by
  refine .bind (Oblivious.witness _ world) fun _ asked asking => ?_
  have askedInside := encloses.plain inside ((Calm.witness (fun _ => rfl) rfl).after asking)
  exact alike.engine askedInside handle call

theorem askEngine_follows (alike : host.Alike view within other) (encloses : Enclosure within)
    (inside : within world) (address : Address) (framing : Framing) :
    Follows view (askEngine host address framing) (askEngine other address framing) world := by
  refine .bind (Oblivious.witness _ world) fun _ asked asking => ?_
  have askedInside := encloses.plain inside ((Calm.witness (fun _ => rfl) rfl).after asking)
  exact alike.createHandle askedInside address framing

theorem openOutbound_follows (alike : host.Alike view within other) (hostEvolves : host.Evolves)
    (encloses : Enclosure within) (inside : within world) (address : Address)
    (framing : Option Framing) (target : TargetId) :
    Follows view (openOutbound host address framing target).run
      (openOutbound other address framing target).run world := by
  refine .looking (.effectBind ?_ fun answer asked asking => ?_)
  · exact Custody.lendingTarget_follows fun lent lending =>
      askEngine_follows alike encloses (encloses.plain inside lending) address _
  have askedInside : within asked := by
    refine encloses.evolves inside (World.Evolves.after_run ?_ asking)
    exact Custody.lendingTarget_evolves (encloses.sound inside) fun lent lending =>
      askEngine_evolves hostEvolves (encloses.sound (encloses.plain inside lending)) address _
  cases answer with
  | error error =>
      refine Oblivious.effectBind ?_ (fun _ => .throw _) asked
      exact .bind (.note _) fun _ => Custody.letGoOfTarget_oblivious view target
  | ok handle =>
      refine .effectBind (Oblivious.note _ asked) fun _ noted noting => ?_
      have notedInside := encloses.plain askedInside ((Calm.note _ rfl).after noting)
      refine .effectBind (register_oblivious view handle target noted)
        fun outcome registered registering => ?_
      have registeredInside := encloses.evolves notedInside
        ((register_evolves (encloses.sound notedInside) handle target).after_run registering)
      cases outcome with
      | ok peer => rfl
      | error error =>
          refine .effectBind ?_ fun _ _ _ => rfl
          refine .bind (Oblivious.note _ registered) fun _ told telling => ?_
          have noLapse := register_noLapse (encloses.sound notedInside) registering
          have plain := (Calm.note (.outboundUnregistered handle error) noLapse).after telling
          exact forward_follows alike encloses (encloses.plain registeredInside plain) handle _

theorem adoptFromFactory_follows (alike : host.Alike view within other)
    (encloses : Enclosure within) (inside : within world) (handle : Handle) (address : Address)
    (options : Bytes) :
    Follows view (adoptFromFactory host handle address options).run
      (adoptFromFactory other handle address options).run world := by
  refine .looking ?_
  have same : (world.through view).factory = world.factory := rfl
  simp only [same]
  cases world.factory with
  | none => exact dropUnknown_oblivious view handle _ world
  | some factory =>
      refine .effectBind (Oblivious.witness _ world) fun _ asked asking => ?_
      have askedInside := encloses.plain inside ((Calm.witness (fun _ => rfl) rfl).after asking)
      refine .effectBind (alike.createTarget askedInside factory handle address options)
        fun answer made _ => ?_
      cases answer with
      | ok target => exact register_oblivious view handle target made
      | error error =>
          refine Oblivious.effectBind ?_ (fun _ => .throw _) made
          exact .bind (.count .own fun _ _ => rfl) fun _ => .note _

end Registration

namespace Delivery

open References Registration

variable {target : TargetId} {event : SocketEvent} {next : Lifecycle}

/-- A callback that begins does so inside the enclosure, as it is a stride
away from where its event was accepted. -/
theorem deliver_follows (alike : host.Alike view within other) (encloses : Enclosure within)
    (inside : within world) (genuine : world.Genuine peer)
    (accepts : (world.life peer.entry).Accepts event target next) {accepted : World σ Mark}
    (accepting : (world.setLife peer.entry next).Plain accepted) :
    Follows view (deliver host peer target event).run (deliver other peer target event).run
      accepted := by
  refine .looking (.effectBind (Oblivious.note _ accepted) fun _ noted noting => ?_)
  refine .effectBind ?_ fun answer ended _ => ?_
  · refine Custody.holdingTarget_follows fun lent lending => ?_
    refine Attachment.withAttachedContext_follows fun _ ready attaching => ?_
    have plain : (world.setLife peer.entry next).Plain ready :=
      ((accepting.trans ((Calm.note _ rfl).after noting)).trans lending).trans attaching
    let moment : Moment Mark := .callback peer target event ready.attached?
    show Follows view (do witness moment; host.callback peer target event)
      (do witness moment; other.callback peer target event) ready
    refine .bind (Oblivious.witness moment ready) fun _ begun beginning => ?_
    cases beginning
    have begun : within (ready.push (.callback peer target event ready.attached?)) :=
      encloses.stride inside (.called genuine accepts plain _)
    exact alike.callback begun peer target event
  · cases answer with
    | ok nothing => exact Oblivious.effect (.count .own fun _ _ => rfl) ended
    | error error =>
        refine Oblivious.effectBind ?_ (fun _ => .throw _) ended
        exact .bind (.count .own fun _ _ => rfl) fun _ => .note _

theorem deliverOr_follows (alike : host.Alike view within other) (encloses : Enclosure within)
    (inside : within world) (genuine : world.Genuine peer)
    (accepts : (world.life peer.entry).Accepts event target next) {accepted : World σ Mark}
    (accepting : (world.setLife peer.entry next).Plain accepted) {undo : BridgeM σ Mark Unit}
    {undo' : BridgeM τ Mark Unit} (undone : Oblivious view undo undo') :
    Follows view (deliverOr host peer target event undo).run
      (deliverOr other peer target event undo').run accepted := by
  refine .effectBind (deliver_follows alike encloses inside genuine accepts accepting)
    fun answer ended _ => ?_
  cases answer with
  | ok nothing => rfl
  | error error => exact Oblivious.effectBind undone (fun _ => .throw _) ended

theorem onWriteCompleted_follows (alike : host.Alike view within other)
    (encloses : Enclosure within) (inside : within world) (handle : Handle) (byteCount : Nat) :
    Follows view (onWriteCompleted host handle byteCount).run
      (onWriteCompleted other handle byteCount).run world := by
  refine lookup_follows (encloses.sound inside) fun peer genuine => ?_
  refine Custody.holding_follows ?_
  have held := world.plain_engage peer.entry
  refine checked_follows fun target next accepted => ?_
  exact deliver_follows alike encloses (encloses.plain inside held) (held.genuine genuine)
    (.writeCompleted accepted) (.refl _)

theorem onCloseRequest_follows (alike : host.Alike view within other)
    (encloses : Enclosure within) (inside : within world) (handle : Handle) (status : Int)
    (message : Bytes) :
    Follows view (onCloseRequest host handle status message).run
      (onCloseRequest other handle status message).run world := by
  refine lookup_follows (encloses.sound inside) fun peer genuine => ?_
  refine Custody.holding_follows ?_
  have held := world.plain_engage peer.entry
  refine checked_follows fun (target, before) next accepted => ?_
  refine .effectBind (noteIfAny_oblivious view _ _) fun _ noted noting => ?_
  have plain := (noteIfAny_calm decodeOrPlaceholder_noLapse).after noting
  exact deliverOr_follows alike encloses (encloses.plain inside held) (held.genuine genuine)
    (.closeRequest accepted) plain (.change peer.entry _)

theorem thenDropping_follows {buffer : NativeBuffer Hook} {body : Call σ Mark α}
    {body' : Call τ Mark α} (ran : Follows view body.run body'.run world) :
    Follows view (thenDropping buffer body).run (thenDropping buffer body').run world :=
  .ensuring ran (.dropBuffer buffer)

theorem enterReceived_follows {byteCount : Nat} {retained : Option (NativeBuffer Hook)}
    {rest : TargetId → Call σ Mark α} {rest' : TargetId → Call τ Mark α}
    (taken : ∀ target next,
      (world.life peer.entry).acceptReceived byteCount retained = .ok (target, next) →
      Follows view (rest target).run (rest' target).run (world.setLife peer.entry next)) :
    Follows view (enterReceived peer byteCount retained >>= rest).run
      (enterReceived peer byteCount retained >>= rest').run world := by
  refine .callBind (enterReceived_oblivious view peer byteCount retained world)
    fun target middle ran => ?_
  cases accepted : (world.life peer.entry).acceptReceived byteCount retained with
  | error refusal =>
      obtain ⟨_, refused⟩ := enterReceived_ends accepted
      cases refused.symm.trans ran
  | ok outcome =>
      cases (enterReceived_of_ok accepted).symm.trans ran
      exact taken outcome.1 outcome.2 accepted

theorem onReceived_follows (alike : host.Alike view within other) (encloses : Enclosure within)
    (inside : within world) (handle : Handle) (data : NativeBuffer Hook) :
    Follows view (onReceived host handle data).run (onReceived other handle data).run world := by
  refine .effectBind (lookup_oblivious view handle .received world) fun answer middle ran => ?_
  cases answer with
  | error error => exact thenDropping_follows (Oblivious.throw error middle)
  | ok peer =>
      obtain ⟨rfl, genuine⟩ := found_of_lookup (encloses.sound inside) ran
      refine Custody.holding_follows ?_
      have held := middle.plain_engage peer.entry
      cases taken : data.transfer with
      | error violation =>
          exact thenDropping_follows
            (reject_oblivious view .own (.invariantViolation none violation) _)
      | ok outcome =>
          obtain ⟨bytes, spent⟩ := outcome
          rw [NativeBuffer.size_of_transfer taken]
          refine enterReceived_follows fun target next accepted => ?_
          refine deliverOr_follows alike encloses (encloses.plain inside held)
            (held.genuine genuine) (.received accepted) (.refl _) ?_
          exact .bind (.change peer.entry _) fun buffer => dropIfAny_oblivious view buffer

/-- The open request of a connection that is there. -/
private theorem opening_follows (alike : host.Alike view within other)
    (encloses : Enclosure within) (inside : within world) (genuine : world.Genuine peer)
    (handle : Handle) (address : Address) (options : Bytes) :
    Follows view (Call.holding peer.entry (opening host handle address options peer)).run
      (Call.holding peer.entry (opening other handle address options peer)).run world := by
  refine Custody.holding_follows ?_
  have held := world.plain_engage peer.entry
  refine checked_follows fun target next begun => ?_
  refine .callBind (deliverOr_follows alike encloses (encloses.plain inside held)
    (held.genuine genuine) (.openRequest begun) (.refl _) (.change peer.entry _))
    fun _ delivered _ => ?_
  refine .effectBind (Oblivious.change peer.entry _ delivered) fun isOpen finished _ => ?_
  cases isOpen with
  | true => exact Oblivious.effect (.note _) finished
  | false => rfl

theorem onOpen_follows (alike : host.Alike view within other) (hostEvolves : host.Evolves)
    (encloses : Enclosure within) (inside : within world) (handle : Handle) (address : Address)
    (options : NativeBuffer Hook) :
    Follows view (onOpen host handle address options).run
      (onOpen other handle address options).run world := by
  unfold onOpen
  cases taken : options.transfer with
  | error violation =>
      exact thenDropping_follows
        (reject_oblivious view .own (.invariantViolation none violation) world)
  | ok outcome =>
      obtain ⟨bytes, spent⟩ := outcome
      refine thenDropping_follows (.looking ?_)
      have same : (world.through view).peer? handle = world.peer? handle := rfl
      simp only [same]
      cases known : world.peer? handle with
      | some peer =>
          exact opening_follows alike encloses inside
            (genuine_of_peer? (encloses.sound inside) known) handle address bytes
      | none =>
          refine .callBind (adoptFromFactory_follows alike encloses inside handle address bytes)
            fun peer adopted ran => ?_
          obtain ⟨outcome, after, adopts, evolves, genuine⟩ := adoptFromFactory_ends hostEvolves
            (encloses.sound inside) handle address bytes
          cases adopts.symm.trans ran
          exact opening_follows alike encloses (encloses.evolves inside evolves)
            (genuine peer rfl) handle address bytes

theorem onClosed_follows (alike : host.Alike view within other) (encloses : Enclosure within)
    (inside : within world) (handle : Handle) (domain code : Int) (message : Bytes) :
    Follows view (onClosed host handle domain code message).run
      (onClosed other handle domain code message).run world := by
  refine lookup_follows (encloses.sound inside) fun peer genuine => ?_
  refine Custody.holding_follows ?_
  refine .effectBind (noteIfAny_oblivious view _ _) fun _ noted noting => ?_
  have plain : world.Plain noted := (world.plain_engage peer.entry).trans
    ((noteIfAny_calm decodeOrPlaceholder_noLapse).after noting)
  refine checked_follows fun (target, before) next begun => ?_
  refine .effectBind (.onPanic ?_ (releaseAfterPanic_oblivious view peer)) fun answer ended _ => ?_
  · exact deliver_follows alike encloses (encloses.plain inside plain) (plain.genuine genuine)
      (.closed begun) (.refl _)
  · cases answer with
    | ok nothing => exact releaseNative_oblivious view .own peer ended
    | error error =>
        exact Oblivious.effectBind (.change peer.entry _) (fun _ => .throw _) ended

theorem dispatch_follows (alike : host.Alike view within other) (hostEvolves : host.Evolves)
    (encloses : Enclosure within) (inside : within world) (handle : Handle)
    (event : NativeEvent) :
    Follows view (dispatch host handle event).run (dispatch other handle event).run world := by
  cases event with
  | openRequest address options =>
      exact onOpen_follows alike hostEvolves encloses inside handle address options
  | writeCompleted byteCount =>
      exact onWriteCompleted_follows alike encloses inside handle byteCount
  | received data => exact onReceived_follows alike encloses inside handle data
  | closeRequest status message =>
      exact onCloseRequest_follows alike encloses inside handle status message
  | closed domain code message =>
      exact onClosed_follows alike encloses inside handle domain code message

end Delivery

namespace Socket

open References Registration

variable {next : Lifecycle}

theorem forwardFor_follows (alike : host.Alike view within other) (encloses : Enclosure within)
    (inside : within world) (genuine : world.Genuine peer) {call : EngineCall}
    (forwards : (world.life peer.entry).Forwards world.config.maxPendingWriteBytes call next)
    {ready : World σ Mark} (plain : (world.setLife peer.entry next).Plain ready) :
    Follows view (forwardFor host peer call) (forwardFor other peer call) ready := by
  refine .bind (Oblivious.witness _ ready) fun _ begun beginning => ?_
  cases beginning
  exact alike.engine (encloses.stride inside (.forwarded genuine forwards plain)) peer.handle call

theorem closed_follows (alike : host.Alike view within other) (encloses : Enclosure within)
    (inside : within world) (genuine : world.Genuine peer) (error : ErrorRecord) :
    Follows view (closed host peer error) (closed other peer error) world := by
  refine .bind (Oblivious.change peer.entry _ world) fun first marked marking => ?_
  obtain ⟨rfl, rfl⟩ := change_runs marking
  rcases Lifecycle.markManagedClosed_cases (world.life peer.entry) with
    ⟨_, _, taken⟩ | ⟨_, taken⟩
  · rw [taken]
    exact forwardFor_follows alike encloses inside genuine (.closed taken) (.refl _)
  · rw [taken]
    exact Oblivious.note _ _

theorem invoke_follows (alike : host.Alike view within other)
    (encloses : Enclosure within) (inside : within world) (genuine : world.Genuine peer)
    (call : SocketCall) :
    Follows view (invoke host peer call).run (invoke other peer call).run world := by
  have forwarded {call : EngineCall} {next : Lifecycle} {ready : World σ Mark}
      (forwards : (world.life peer.entry).Forwards world.config.maxPendingWriteBytes call next)
      (plain : (world.setLife peer.entry next).Plain ready) :
      Follows view (effect (forwardFor host peer call)).run
        (effect (forwardFor other peer call)).run ready :=
    .effect (forwardFor_follows alike encloses inside genuine forwards plain)
  cases call with
  | opened =>
      refine .callBind (checked_follows fun first next marked => ?_) fun _ _ _ => rfl
      cases first with
      | true => exact forwarded (.opened marked) (.refl _)
      | false => rfl
  | httpResponse status headers =>
      exact .callBind (checked_follows fun _ next checked =>
        forwarded (.httpResponse checked) (.refl _)) fun _ _ _ => rfl
  | write data =>
      exact .callBind (.looking (checked_follows fun _ next recorded =>
        forwarded (.write recorded) (.refl _))) fun _ _ _ => rfl
  | completedReceive byteCount =>
      refine .callBind (checked_follows fun freed next acknowledged => ?_) fun _ _ _ => rfl
      have dropping : Oblivious view (freed.forM dropBuffer) (freed.forM dropBuffer) :=
        .forM .dropBuffer
      refine .effectBind (dropping _) fun _ dropped ran => ?_
      exact forwarded (.completedReceive acknowledged)
        ((Calm.forM fun buffer _ => .dropBuffer buffer).after ran)
  | closeRequest status message =>
      exact .callBind (checked_follows fun _ next requested =>
        forwarded (.closeRequest requested) (.refl _)) fun _ _ _ => rfl
  | closed error =>
      exact .effectBind (closed_follows alike encloses inside genuine error) fun _ _ _ => rfl
  | retain => exact .callBind (checked_oblivious view .own peer _ world) fun _ _ _ => rfl
  | release => exact .callBind (release_oblivious view .own peer world) fun _ _ _ => rfl

end Socket

namespace BridgeCall

theorem replyTo_follows {call : Call σ Mark α} {call' : Call τ Mark α} {answer : α → Reply}
    (ran : Follows view call.run call'.run world) :
    Follows view (replyTo call answer) (replyTo call' answer) world :=
  .bind ran fun _ _ _ => rfl

/-- A call over a host that answers alike inside the enclosure ends alike. -/
theorem perform_follows (alike : host.Alike view within other)
    (hostEvolves : host.Evolves) (encloses : Enclosure within) (inside : within world)
    (call : BridgeCall) : Follows view (call.perform host) (call.perform other) world := by
  cases call with
  | openOutbound address framing target =>
      exact replyTo_follows (Registration.openOutbound_follows alike hostEvolves encloses inside
        address framing target)
  | adoptInbound handle target =>
      exact replyTo_follows (Registration.register_oblivious view handle target world)
  | native handle event =>
      exact replyTo_follows (Delivery.dispatch_follows alike hostEvolves encloses inside handle
        event)
  | socket entry call =>
      have same : World.entry? (world.through view) entry = world.entry? entry := rfl
      have one : (BridgeCall.socket entry call).perform host world = _ := bind_of_ok rfl
      have two : (BridgeCall.socket entry call).perform other (world.through view) = _ :=
        bind_of_ok rfl
      rw [same] at two
      unfold Follows
      rw [one, two]
      cases found : world.entry? entry with
      | none => rfl
      | some registration =>
          refine Custody.holding_follows (replyTo_follows ?_)
          have held := world.plain_engage entry
          exact Socket.invoke_follows alike encloses (encloses.plain inside held)
            (held.genuine ⟨registration, found, rfl⟩) call

end BridgeCall

end Hosts

/-! ## Runs side by side -/

section Runs

variable [Custodian σ] [Custodian τ] {view : View σ τ} {world : World σ Mark}

/-- The code of the other behaviour follows that of the one if the calls that
it makes do. -/
def Behaviour.Alike (view : View σ τ) (behaviour : Behaviour σ) (other : Behaviour τ) : Prop :=
  ∀ (make : BridgeCall → BridgeM σ Mark Reply) (make' : BridgeCall → BridgeM τ Mark Reply),
    (∀ call (world : World σ Mark), world.Sound → world.Evolves (make call world).2) →
    (∀ call (world : World σ Mark), world.Sound → Follows view (make call) (make' call) world) →
    (behaviour.host make).Alike view World.Sound (other.host make')

/-- What code comes to does not depend on what a view changes, by induction on
the depth of nesting. -/
theorem BridgeCall.make_alike {behaviour : Behaviour σ} {other : Behaviour τ}
    (alike : behaviour.Alike view other) (depth : Nat) (call : BridgeCall) (sound : world.Sound) :
    Follows view (call.make behaviour depth) (call.make other depth) world := by
  induction depth generalizing call world with
  | zero => rfl
  | succ depth inductionHypothesis =>
      have makes (call : BridgeCall) (world : World σ Mark) (sound : world.Sound) :
          world.Evolves (call.make behaviour depth world).2 :=
        call.make_evolves behaviour depth sound
      have hosts := alike (make behaviour depth) (make other depth) makes
        fun call _ sound => inductionHypothesis call sound
      refine .bind (Oblivious.witness _ world) fun _ called marking => ?_
      cases marking
      refine .bind (.catchPanic ?_) fun outcome ended _ => ?_
      · exact perform_follows hosts (behaviour.host_evolves makes) .of_sound (sound.push _) call
      · exact .bind (Oblivious.witness _ ended) fun _ _ _ => rfl

end Runs

/-! ## Other pasts -/

/-- Code that does not see what has been recorded. -/
def UserCode.Heedless : UserCode σ α → Prop
  | .finish _ | .unwind _ => True
  | .look next => (∀ (past : Past) world, next (world.preceded past) = next world) ∧
      ∀ world, (next world).Heedless
  | .rearrange _ next => next.Heedless
  | .call _ next => ∀ reply, (next reply).Heedless

structure Behaviour.Heedless (behaviour : Behaviour σ) : Prop where
  callback peer target event : (behaviour.callback peer target event).Heedless
  createHandle address framing : (behaviour.createHandle address framing).Heedless
  engine handle call : (behaviour.engine handle call).Heedless
  createTarget factory handle address options :
      (behaviour.createTarget factory handle address options).Heedless

/-- Code that does not see whether the past precedes. -/
def UserCode.Overlooks (past : Past) : UserCode σ α → Prop
  | .finish _ | .unwind _ => True
  | .look next => (∀ world, next (world.preceded past) = next world) ∧
      ∀ world, (next world).Overlooks past
  | .rearrange _ next => next.Overlooks past
  | .call _ next => ∀ reply, (next reply).Overlooks past

structure Behaviour.Overlooks (past : Past) (behaviour : Behaviour σ) : Prop where
  callback peer target event : (behaviour.callback peer target event).Overlooks past
  createHandle address framing : (behaviour.createHandle address framing).Overlooks past
  engine handle call : (behaviour.engine handle call).Overlooks past
  createTarget factory handle address options :
      (behaviour.createTarget factory handle address options).Overlooks past

/-- Heedless code overlooks every past. -/
theorem UserCode.Heedless.overlooks {code : UserCode σ α} (heedless : code.Heedless)
    (past : Past) : code.Overlooks past := by
  induction code with
  | finish _ | unwind _ => trivial
  | look next inductionHypothesis =>
      exact ⟨heedless.1 past, fun world => inductionHypothesis world (heedless.2 world)⟩
  | rearrange _ next inductionHypothesis => exact inductionHypothesis heedless
  | call _ next inductionHypothesis =>
      exact fun reply => inductionHypothesis reply (heedless reply)

theorem Behaviour.Heedless.overlooks {behaviour : Behaviour σ} (heedless : behaviour.Heedless)
    (past : Past) : behaviour.Overlooks past where
  callback _ _ _ := (heedless.callback _ _ _).overlooks past
  createHandle _ _ := (heedless.createHandle _ _).overlooks past
  engine _ _ := (heedless.engine _ _).overlooks past
  createTarget _ _ _ _ := (heedless.createTarget _ _ _ _).overlooks past

section Pasts

variable [Custodian σ] {past : Past} {world : World σ Mark}

/-- Code that overlooks the past follows itself if the calls that it makes do. -/
theorem UserCode.run_follows {make make' : BridgeCall → BridgeM σ Mark Reply}
    (makes : ∀ call (world : World σ Mark), world.Sound → world.Evolves (make call world).2)
    (follow : ∀ call (world : World σ Mark), world.Sound →
      Follows past.view (make call) (make' call) world)
    {code : UserCode σ α} (overlooks : code.Overlooks past) (sound : world.Sound) :
    Follows past.view (code.run make) (code.run make') world := by
  induction code generalizing world with
  | finish result => rfl
  | unwind panic => rfl
  | look next inductionHypothesis =>
      show ((next (world.preceded past)).run make') (world.preceded past) =
        past.view.upon ((next world).run make world)
      rw [overlooks.1]
      exact inductionHypothesis world (overlooks.2 world) sound
  | rearrange change next inductionHypothesis =>
      have rearranged : world.Plain (world.amid (change world.surroundings)) := .amid _
      exact inductionHypothesis overlooks (sound.plain rearranged)
  | call made next inductionHypothesis =>
      refine .bind (follow made world sound) fun reply answered ran => ?_
      exact inductionHypothesis reply (overlooks reply)
        (((makes made world sound).after_run ran).sound sound)

namespace Behaviour.Overlooks

variable {behaviour : Behaviour σ}

theorem alike (overlooks : behaviour.Overlooks past) : behaviour.Alike past.view behaviour :=
  fun _ _ makes follow =>
    { callback := fun sound _ _ _ =>
        UserCode.run_follows makes follow (overlooks.callback _ _ _) sound
      createHandle := fun sound _ _ =>
        UserCode.run_follows makes follow (overlooks.createHandle _ _) sound
      engine := fun sound _ _ =>
        UserCode.run_follows makes follow (overlooks.engine _ _) sound
      createTarget := fun sound _ _ _ _ =>
        UserCode.run_follows makes follow (overlooks.createTarget _ _ _ _) sound }

/-- What the code that a call makes use of comes to does not depend on the past,
nor does what the bridge makes of it. -/
theorem perform_follows (overlooks : behaviour.Overlooks past) (depth : Nat) (call : BridgeCall)
    (sound : world.Sound) :
    let host := behaviour.host (BridgeCall.make behaviour depth)
    Follows past.view (call.perform host) (call.perform host) world := by
  have makes (call : BridgeCall) (world : World σ Mark) (sound : world.Sound) :
      world.Evolves (call.make behaviour depth world).2 :=
    call.make_evolves behaviour depth sound
  have alike := overlooks.alike _ _ makes fun call _ sound =>
    BridgeCall.make_alike overlooks.alike depth call sound
  exact BridgeCall.perform_follows alike (behaviour.host_evolves makes) .of_sound sound call

end Behaviour.Overlooks

/-- What code comes to that overlooks the past does not depend on it. -/
theorem BridgeCall.make_follows {behaviour : Behaviour σ} (overlooks : behaviour.Overlooks past)
    (depth : Nat) (call : BridgeCall) (sound : world.Sound) :
    Follows past.view (call.make behaviour depth) (call.make behaviour depth) world :=
  make_alike overlooks.alike depth call sound

end Pasts

end TransportBridge
