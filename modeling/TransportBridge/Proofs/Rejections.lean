import TransportBridge.Bridge.Socket
import TransportBridge.Proofs.Entrances

/-!
Contract: what a call on the bridge is rejected for.

A call that is rejected was so by one of its parts: by a step that the
lifecycle has refused, by a handle that is unknown or taken, by a runtime that
gives no context, or by a party that the bridge has asked. In sound books none
of these is a lapse.

Owns: that no call is rejected for a lapse of the books.
-/

namespace TransportBridge

variable {σ α β : Type} {world : World σ Mark}

/-- Whatever the call is rejected for, it is no lapse of the books. -/
def Blameless (body : Call σ Mark α) (world : World σ Mark) : Prop :=
  ∀ error after, body world = (.ok (.error error), after) → error.isLapse = false

/-! ## The parts of a call -/

namespace Blameless

theorem pure (result : α) : Blameless (Pure.pure result : Call σ Mark α) world := by
  intro _ _ ran
  cases ran

theorem throw {error : BridgeError} (noLapse : error.isLapse = false) :
    Blameless (MonadExcept.throw error : Call σ Mark α) world := by
  intro _ _ ran
  cases ran
  exact noLapse

theorem effect (body : BridgeM σ Mark α) : Blameless (TransportBridge.effect body) world :=
  fun _ _ ran => absurd ran effect_not_rejected

theorem bind {first : Call σ Mark α} {next : α → Call σ Mark β} (one : Blameless first world)
    (two : ∀ result middle, first world = (.ok (.ok result), middle) →
      Blameless (next result) middle) : Blameless (first >>= next) world := by
  intro _ _ ran
  rcases callBind_rejected ran with rejected | ⟨result, middle, began, rejected⟩
  · exact one _ _ rejected
  · exact two result middle began _ _ rejected

theorem effectBind {first : BridgeM σ Mark α} {next : α → Call σ Mark β}
    (two : ∀ result middle, first world = (.ok result, middle) → Blameless (next result) middle) :
    Blameless (TransportBridge.effect first >>= next) world := by
  intro _ _ ran
  obtain ⟨result, middle, began, rejected⟩ := effectBind_ok ran
  exact two result middle began _ _ rejected

theorem looking {next : World σ Mark → Call σ Mark α} (rest : Blameless (next world) world) :
    Blameless ((get : Call σ Mark (World σ Mark)) >>= next) world :=
  rest

theorem ensuring {body : Call σ Mark α} {cleanup : BridgeM σ Mark Unit}
    (one : Blameless body world) : Blameless (body.ensuring cleanup) world := by
  intro _ _ ran
  obtain ⟨_, rejected, _⟩ := ensuring_ok ran
  exact one _ _ rejected

theorem holding [Custodian σ] {entry : EntryId} {body : Call σ Mark α}
    (one : Blameless body (world.engage entry)) :
    Blameless (Call.holding entry body) world := by
  intro _ _ ran
  obtain ⟨_, held, _⟩ := ensuring_ok ran
  obtain ⟨_, engaged, began, rejected⟩ := bind_ok held
  cases began
  exact one _ _ rejected

end Blameless

namespace References

variable {peer : Peer}

theorem reject_blameless {book : Book} {error : BridgeError} (noLapse : error.isLapse = false) :
    Blameless (reject book error : Call σ Mark α) world := by
  intro _ _ ran
  obtain ⟨_, rejected⟩ := reject_ends world book error
  cases rejected.symm.trans ran
  exact noLapse

theorem checkedBind_blameless {book : Book} {step : Lifecycle → Lifecycle.Step α}
    {rest : α → Call σ Mark β}
    (noLapse : ∀ {refusal}, step (world.life peer.entry) = .error refusal →
      refusal.isLapse = false)
    (taken : ∀ result next, step (world.life peer.entry) = .ok (result, next) →
      Blameless (rest result) (world.setLife peer.entry next)) :
    Blameless (checked book peer step >>= rest) world := by
  intro _ _ ran
  cases stepped : step (world.life peer.entry) with
  | error refusal =>
      obtain ⟨_, rejected⟩ : ∃ after, checked book peer step world =
          (.ok (.error (refusal.toError peer.handle)), after) := checked_ends stepped
      cases (callBind_of_rejected rejected).symm.trans ran
      exact (refusal.toError_isLapse _).trans (noLapse stepped)
  | ok outcome =>
      rw [callBind_of_ok (checked_of_ok stepped)] at ran
      exact taken outcome.1 outcome.2 stepped _ _ ran

theorem retain_blameless : Blameless (do return some (← retain .own peer)) world :=
  checkedBind_blameless Lifecycle.retain_refused fun _ _ _ => .pure _

theorem finish_blameless [Custodian σ] {book : Book} (remains : Option Teardown) :
    Blameless (finish book peer remains) world := by
  cases remains with
  | none => exact .pure ()
  | some remains => exact .effect _

theorem release_blameless [Custodian σ] : Blameless (release .own peer) world :=
  checkedBind_blameless Lifecycle.release_refused fun remains _ _ => finish_blameless remains

end References

/-! ## Registrations -/

namespace Registration

variable {host : Host σ Mark}

theorem dropUnknown_blameless {handle : Handle} {event : EventKind} :
    Blameless (dropUnknown handle event : Call σ Mark α) world :=
  .effectBind fun _ _ _ => .throw rfl

theorem lookup_blameless {handle : Handle} {event : EventKind} :
    Blameless (lookup handle event) world := by
  refine .looking ?_
  cases world.peer? handle with
  | some peer => exact .pure peer
  | none => exact dropUnknown_blameless

variable [Custodian σ]

theorem register_blameless (sound : world.Sound) {handle : Handle} {target : TargetId} :
    Blameless (register handle target) world :=
  fun _ _ => register_noLapse sound

theorem openOutbound_blameless (hostEvolves : host.Evolves) (sound : world.Sound)
    {address : Address} {framing : Option Framing} {target : TargetId} :
    Blameless (openOutbound host address framing target) world := by
  refine .looking (.effectBind fun answer asked ask => ?_)
  cases answer with
  | error error => exact .effectBind fun _ _ _ => .throw rfl
  | ok handle =>
      have asking : world.Evolves asked := .after_run
        (Custody.lendingTarget_evolves sound fun lent plain =>
          askEngine_evolves hostEvolves (sound.plain plain) address _) ask
      refine .effectBind fun _ noted note => ?_
      have noting : asked.Plain noted := (Calm.note _ rfl).after note
      refine .effectBind fun outcome made making => ?_
      cases outcome with
      | ok peer => exact .pure peer
      | error error =>
          have registering : register handle target noted = (.ok (.error error), made) := making
          refine .effectBind fun _ _ _ => .throw ?_
          exact register_noLapse ((asking.sound sound).plain noting) registering

theorem adoptFromFactory_blameless (hostEvolves : host.Evolves) (sound : world.Sound)
    {handle : Handle} {address : Address} {options : Bytes} :
    Blameless (adoptFromFactory host handle address options) world := by
  refine .looking ?_
  cases world.factory with
  | none => exact dropUnknown_blameless
  | some factory =>
      refine .effectBind fun _ asked ask => .effectBind fun answer made making => ?_
      have asking : world.Plain asked := (Calm.witness (fun _ => rfl) rfl).after ask
      have evolves : asked.Evolves made := .after_run
        (hostEvolves.createTarget (sound.plain asking) factory handle address options) making
      cases answer with
      | ok target => exact register_blameless (evolves.sound (sound.plain asking))
      | error error => exact .effectBind fun _ _ _ => .throw rfl

end Registration

/-! ## Reports of the native side -/

namespace Delivery

open References Registration

variable {host : Host σ Mark} {peer : Peer} {target : TargetId} {event : SocketEvent}

theorem thenDropping_blameless {buffer : NativeBuffer Hook} {body : Call σ Mark α}
    (one : Blameless body world) : Blameless (thenDropping buffer body) world :=
  .ensuring one

variable [Custodian σ]

theorem deliver_blameless : Blameless (deliver host peer target event) world := by
  refine .looking (.effectBind fun _ noted _ => .effectBind fun answer missed held => ?_)
  cases answer with
  | ok result => exact .effect _
  | error error =>
      exact .effectBind fun _ _ _ => .throw (context_noLapse held)

theorem deliverOr_blameless {undo : BridgeM σ Mark Unit} :
    Blameless (deliverOr host peer target event undo) world := by
  refine .effectBind fun answer missed ran => ?_
  cases answer with
  | ok result => exact .pure result
  | error error => exact .effectBind fun _ _ _ => .throw (deliver_blameless _ _ ran)

/-- A connection that is found is held while its event is delivered. -/
private theorem lookup_holding_blameless (sound : world.Sound) {handle : Handle}
    {event : EventKind} {rest : Peer → Call σ Mark α}
    (found : ∀ peer, (world.engage peer.entry).Sound → (world.engage peer.entry).Genuine peer →
      Blameless (rest peer) (world.engage peer.entry)) :
    Blameless (do
      let peer ← lookup handle event
      Call.holding peer.entry (rest peer)) world := by
  refine .bind lookup_blameless fun peer middle ran => .holding ?_
  obtain ⟨rfl, genuine⟩ := found_of_lookup sound ran
  have holding := middle.plain_engage peer.entry
  exact found peer (sound.plain holding) (holding.genuine genuine)

theorem onWriteCompleted_blameless (sound : world.Sound) {handle : Handle} {byteCount : Nat} :
    Blameless (onWriteCompleted host handle byteCount) world :=
  lookup_holding_blameless sound fun _ held genuine =>
    checkedBind_blameless (held.life_proper genuine).acceptWriteCompleted_refused
      fun _ _ _ => deliver_blameless

theorem onCloseRequest_blameless (sound : world.Sound) {handle : Handle} {status : Int}
    {message : Bytes} : Blameless (onCloseRequest host handle status message) world :=
  lookup_holding_blameless sound fun _ held genuine =>
    checkedBind_blameless (held.life_proper genuine).acceptCloseRequest_refused
      fun _ _ _ => .effectBind fun _ _ _ => deliverOr_blameless

omit [Custodian σ] in
theorem enterReceived_blameless (proper : (world.life peer.entry).Proper) {byteCount : Nat}
    {retained : Option (NativeBuffer Hook)} :
    Blameless (enterReceived peer byteCount retained) world := by
  intro _ _ ran
  cases accepted : (world.life peer.entry).acceptReceived byteCount retained with
  | error refusal =>
      obtain ⟨_, rejected⟩ := enterReceived_ends accepted
      cases rejected.symm.trans ran
      exact (refusal.toError_isLapse _).trans (proper.acceptReceived_refused accepted)
  | ok outcome => cases (enterReceived_of_ok accepted).symm.trans ran

theorem onReceived_blameless (sound : world.Sound) {handle : Handle}
    {data : NativeBuffer Hook} : Blameless (onReceived host handle data) world := by
  refine .effectBind fun answer middle ran => ?_
  cases answer with
  | error error => exact thenDropping_blameless (.throw (lookup_blameless _ _ ran))
  | ok peer =>
      obtain ⟨rfl, genuine⟩ := found_of_lookup sound ran
      have holding := middle.plain_engage peer.entry
      apply Blameless.holding
      cases taken : data.transfer with
      | error violation =>
          have noLapse := NativeBuffer.transfer_refused taken
          exact thenDropping_blameless (reject_blameless noLapse)
      | ok outcome =>
          have proper := (sound.plain holding).life_proper (holding.genuine genuine)
          exact .bind (enterReceived_blameless proper) fun _ _ _ => deliverOr_blameless

private theorem opening_blameless (sound : world.Sound) (genuine : world.Genuine peer)
    {handle : Handle} {address : Address} {options : Bytes} :
    Blameless (opening host handle address options peer) world := by
  apply checkedBind_blameless (sound.life_proper genuine).beginOpen_refused
  intro _ _ _
  refine .bind deliverOr_blameless fun _ _ _ => .effectBind fun opened _ _ => ?_
  cases opened with
  | true => exact .effect _
  | false => exact .pure ()

theorem onOpen_blameless (hostEvolves : host.Evolves) (sound : world.Sound) {handle : Handle}
    {address : Address} {options : NativeBuffer Hook} :
    Blameless (onOpen host handle address options) world := by
  unfold onOpen
  cases taken : options.transfer with
  | error violation =>
      have noLapse := NativeBuffer.transfer_refused taken
      exact thenDropping_blameless (reject_blameless noLapse)
  | ok outcome =>
      obtain ⟨bytes, spent⟩ := outcome
      refine thenDropping_blameless (.looking ?_)
      cases known : world.peer? handle with
      | some peer =>
          have holding := world.plain_engage peer.entry
          exact .holding (opening_blameless (sound.plain holding)
            (holding.genuine (genuine_of_peer? sound known)))
      | none =>
          refine .bind (adoptFromFactory_blameless hostEvolves sound) fun peer after ran => ?_
          obtain ⟨outcome, _, adopted, evolves, genuine⟩ :=
            adoptFromFactory_ends hostEvolves sound handle address bytes
          obtain ⟨rfl, rfl⟩ := Prod.mk.inj (ran.symm.trans adopted)
          have holding := after.plain_engage peer.entry
          exact .holding (opening_blameless ((evolves.sound sound).plain holding)
            (holding.genuine (genuine peer rfl)))

/-- The native reference is there to be given up when the callback is over. -/
theorem onClosed_blameless (hostEvolves : host.Evolves) (sound : world.Sound) {handle : Handle}
    {domain code : Int} {message : Bytes} :
    Blameless (onClosed host handle domain code message) world := by
  refine lookup_holding_blameless sound fun peer heldSound genuine => ?_
  refine .effectBind fun _ noted note => ?_
  have noting : (world.engage peer.entry).Plain noted :=
    (noteIfAny_calm decodeOrPlaceholder_noLapse).after note
  have notedSound := heldSound.plain noting
  have notedGenuine := noting.genuine genuine
  apply checkedBind_blameless (notedSound.life_proper notedGenuine).beginClose_refused
  intro (target, before) next begun
  refine .effectBind fun answer ended ran => ?_
  have delivering : deliver host peer target (.closed (translate domain code message).1)
      (noted.setLife peer.entry next) = (.ok answer, ended) := onPanic_ok ran
  cases answer with
  | error error => exact .effectBind fun _ _ _ => .throw (deliver_blameless _ _ delivering)
  | ok result =>
      rcases deliver_cases hostEvolves notedSound notedGenuine (.closed begun) (.refl _) with
        ⟨_, _, missed, _⟩ | ⟨_, _, _, delivered, _, stride, lives, _, rest⟩
      · cases missed.symm.trans delivering
      · obtain ⟨_, rfl⟩ := Prod.mk.inj (delivered.symm.trans delivering)
        obtain ⟨endedSound, endedGenuine, closing⟩ :=
          closing_of_called notedSound notedGenuine begun stride lives rest
        obtain ⟨_, released, _⟩ := releaseNative_settles endedSound endedGenuine closing
        intro _ _ refused
        cases released.symm.trans refused

theorem dispatch_blameless (hostEvolves : host.Evolves) (sound : world.Sound) {handle : Handle}
    (event : NativeEvent) : Blameless (dispatch host handle event) world := by
  cases event with
  | openRequest address options => exact onOpen_blameless hostEvolves sound
  | writeCompleted byteCount => exact onWriteCompleted_blameless sound
  | received data => exact onReceived_blameless sound
  | closeRequest status message => exact onCloseRequest_blameless sound
  | closed domain code message => exact onClosed_blameless hostEvolves sound

end Delivery

/-! ## Calls of the managed side -/

namespace Socket

open References

variable {host : Host σ Mark} {peer : Peer}

/-- No call of the managed side asks for the target, so that it is rejected
for no lapse whatever the books say. -/
theorem invoke_blameless [Custodian σ] (call : SocketCall) :
    Blameless (invoke host peer call) world := by
  have last {result : Option Nat} {body : Call σ Mark Unit} (one : Blameless body world) :
      Blameless (do body; return result) world := .bind one fun _ _ _ => .pure result
  cases call with
  | opened =>
      refine last (checkedBind_blameless Lifecycle.markReady_refused fun first _ _ => ?_)
      cases first with
      | true => exact .effect _
      | false => exact .pure ()
  | httpResponse status headers =>
      exact last (checkedBind_blameless Lifecycle.checkHandshake_refused fun _ _ _ => .effect _)
  | write data =>
      exact last (.looking
        (checkedBind_blameless Lifecycle.recordWrite_refused fun _ _ _ => .effect _))
  | completedReceive byteCount =>
      exact last (checkedBind_blameless Lifecycle.acknowledgeReceive_refused fun _ _ _ =>
        .effectBind fun _ _ _ => .effect _)
  | closeRequest status message =>
      exact last (checkedBind_blameless Lifecycle.requestClose_refused fun _ _ _ => .effect _)
  | closed error => exact .effectBind fun _ _ _ => .pure none
  | retain => exact retain_blameless
  | release => exact last release_blameless

end Socket

/-! ## Replies -/

namespace BridgeCall

variable {host : Host σ Mark}

private theorem replyTo_noLapse {call : Call σ Mark α} {answer : α → Reply} {reply : Reply}
    {after : World σ Mark} (one : Blameless call world)
    (answers : ∀ result, (answer result).isLapse = false)
    (ran : replyTo call answer world = (.ok reply, after)) : reply.isLapse = false := by
  obtain ⟨given, _, called, replied⟩ := bind_ok ran
  cases replied
  cases given with
  | ok result => exact answers result
  | error error => exact one _ _ called

variable [Custodian σ]

/-- Nobody who calls the bridge is told of a lapse of the books. -/
theorem perform_noLapse (hostEvolves : host.Evolves) (sound : world.Sound) (call : BridgeCall) :
    (Reply.ofOutcome (call.perform host world).1).isLapse = false := by
  cases ran : call.perform host world with
  | mk outcome after =>
      cases outcome with
      | error panic => rfl
      | ok reply =>
          cases call with
          | openOutbound address framing target =>
              exact replyTo_noLapse (Registration.openOutbound_blameless hostEvolves sound)
                (fun _ => rfl) ran
          | adoptInbound handle target =>
              exact replyTo_noLapse (Registration.register_blameless sound) (fun _ => rfl) ran
          | native handle event =>
              exact replyTo_noLapse (Delivery.dispatch_blameless hostEvolves sound event)
                (fun _ => rfl) ran
          | socket entry call =>
              obtain ⟨_, _, looked, rest⟩ := bind_ok ran
              cases looked
              cases found : world.entry? entry with
              | none =>
                  rw [found] at rest
                  cases rest
                  rfl
              | some registration =>
                  rw [found] at rest
                  obtain ⟨_, held, _⟩ := ensuring_ok rest
                  obtain ⟨_, engaged, engage, invoked⟩ := bind_ok held
                  refine replyTo_noLapse (Socket.invoke_blameless call) (fun count => ?_) invoked
                  cases count <;> rfl

end BridgeCall

end TransportBridge
