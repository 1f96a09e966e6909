import TransportBridge.Proofs.Answers
import TransportBridge.Proofs.Redelivery

/-!
Contract: calls that are turned away have done nothing.

A call is turned away by a check: the lifecycle refuses its step, nobody knows
its handle, or its handle is taken. No check comes after a change, so that all
is as before but for the counter of such calls, the log, and the buffer that
the call came with, which is dropped. Nobody is called.

Owns: worlds that are spared, and the law of calls that are turned away.

Does not own: calls that are rejected for want of a context, or because a party
that was asked has declined. What such a call has changed is taken back.
-/

namespace TransportBridge

variable {σ α β : Type} {world middle after : World σ Mark}

/-! ## Worlds that are spared -/

/-- What a rejected call leaves of the counters. -/
def BridgeError.counted (error : BridgeError) (metrics : Metrics) : Metrics :=
  if error.drops then metrics.countDropped
  else if error.isInvariantViolation then metrics.countViolation
  else metrics

/-- The world is the same but for the counters, which are `metrics`, and for the
trace, which goes on with `done` apart from the log. -/
inductive World.Spared (before : World σ Mark) (done : List (Moment Mark)) (metrics : Metrics) :
    World σ Mark → Prop where
  | intro {trace : Array (Moment Mark)} (acts : actsIn trace = before.acts ++ done) :
      Spared before done metrics { before with own := { before.own with metrics }, trace }

namespace World.Spared

variable {done more : List (Moment Mark)} {metrics left : Metrics}

theorem refl (world : World σ Mark) : world.Spared [] world.own.metrics world :=
  .intro (List.append_nil _).symm

theorem trans (one : world.Spared done metrics middle) (two : middle.Spared more left after) :
    world.Spared (done ++ more) left after := by
  obtain ⟨acts⟩ := one
  obtain ⟨rest⟩ := two
  refine .intro ?_
  rw [rest, ← List.append_assoc, ← acts]
  rfl

theorem push (world : World σ Mark) {moment : Moment Mark} (act : moment.isNotice = false) :
    world.Spared [moment] world.own.metrics (world.push moment) := by
  refine .intro ((world.acts_push moment).trans ?_)
  rw [act]
  rfl

theorem note (world : World σ Mark) (notice : Notice) :
    world.Spared [] world.own.metrics (world.push (.noted notice)) :=
  .intro (world.acts_push _)

theorem count (world : World σ Mark) (change : Metrics → Metrics) :
    world.Spared [] (change world.own.metrics) (world.count .own change) :=
  .intro (List.append_nil _).symm

theorem counters (spared : world.Spared done metrics after) : after.own.metrics = metrics := by
  obtain ⟨_⟩ := spared
  rfl

theorem books (spared : world.Spared done metrics after) :
    after.entries = world.entries ∧ after.own.registry = world.own.registry ∧
      after.runtime = world.runtime := by
  obtain ⟨_⟩ := spared
  exact ⟨rfl, rfl, rfl⟩

/-- The books are those that were sound. -/
theorem sound (spared : world.Spared done metrics after) (sound : world.Sound) : after.Sound :=
  sound.of_same spared.books.1 spared.books.2.1

/-- The registration that was held for the call is held no more. -/
theorem engaged {id : EntryId} (spared : (world.engage id).Spared done metrics after) :
    world.Spared done metrics { after with engaged := after.engaged.erase id } := by
  obtain ⟨acts⟩ := spared
  have engaged : (world.engage id).engaged = id :: world.engaged := rfl
  simp only [engaged, List.erase_cons_head]
  exact .intro acts

end World.Spared

theorem dropBuffer_spared (buffer : NativeBuffer Hook) (world : World σ Mark) :
    ∃ after, dropBuffer buffer world = (.ok (), after) ∧
      world.Spared (buffer.dropped.map .hookRan) world.own.metrics after := by
  unfold dropBuffer NativeBuffer.dropped
  cases buffer.hook with
  | none => exact ⟨world, rfl, .refl world⟩
  | some hook => exact ⟨_, rfl, .push world rfl⟩

/-! ## Checks -/

theorem Refusal.toError_drops (refusal : Refusal) (handle : Handle) :
    (refusal.toError handle).drops = false := by
  cases refusal <;> rfl

namespace References

variable {peer : Peer} {error : BridgeError}

theorem reject_spared {cause : BridgeError} (kept : cause.drops = false)
    (ran : (reject .own cause : Call σ Mark α) world = (.ok (.error error), after)) :
    error = cause ∧ world.Spared [] (error.counted world.own.metrics) after := by
  obtain ⟨_, _, reported, rejected⟩ := effectBind_ok ran
  cases rejected
  refine ⟨?_, ?_⟩ <;> unfold report at reported
  · split at reported <;> · cases reported; rfl
  · split at reported
    · next violated =>
        cases reported
        rw [BridgeError.counted, if_neg (by simp [kept]), if_pos violated]
        exact (World.Spared.count world Metrics.countViolation).trans (.note (world.count .own _) _)
    · next unviolated =>
        cases reported
        rw [BridgeError.counted, if_neg (by simp [kept]), if_neg unviolated]
        exact .note _ _

theorem checked_spared {step : Lifecycle → Lifecycle.Step α} {refusal : Refusal}
    (refused : step (world.life peer.entry) = .error refusal)
    (ran : checked .own peer step world = (.ok (.error error), after)) :
    error = refusal.toError peer.handle ∧
      world.Spared [] (error.counted world.own.metrics) after := by
  obtain ⟨_, _, attempted, rejected⟩ := effectBind_ok ran
  unfold attempt at attempted
  rw [refused] at attempted
  cases attempted
  exact reject_spared (refusal.toError_drops peer.handle) rejected

/-- A check that rejects the call has reported a refusal, and nothing else. -/
theorem checkedBind_cases {step : Lifecycle → Lifecycle.Step α} {rest : α → Call σ Mark β}
    (ran : (checked .own peer step >>= rest) world = (.ok (.error error), after)) :
    (∃ refusal : Refusal, error = refusal.toError peer.handle ∧
      world.Spared [] (error.counted world.own.metrics) after) ∨
    ∃ result next, step (world.life peer.entry) = .ok (result, next) ∧
      rest result (world.setLife peer.entry next) = (.ok (.error error), after) := by
  cases stepped : step (world.life peer.entry) with
  | ok outcome =>
      rw [callBind_of_ok (checked_of_ok stepped)] at ran
      exact .inr ⟨outcome.1, outcome.2, rfl, ran⟩
  | error refusal =>
      obtain ⟨_, refused⟩ : ∃ after, checked .own peer step world =
          (.ok (.error (refusal.toError peer.handle)), after) := checked_ends stepped
      cases (callBind_of_rejected refused).symm.trans ran
      exact .inl ⟨refusal, checked_spared stepped refused⟩

/-- What follows the check rejects nothing. -/
theorem checkedBind_spared {step : Lifecycle → Lifecycle.Step α} {rest : α → Call σ Mark β}
    (taken : ∀ result middle, rest result middle ≠ (.ok (.error error), after))
    (ran : (checked .own peer step >>= rest) world = (.ok (.error error), after)) :
    world.Spared [] (error.counted world.own.metrics) after := by
  rcases checkedBind_cases ran with ⟨_, _, spared⟩ | ⟨result, next, _, rejected⟩
  · exact spared
  · exact absurd rejected (taken result _)

end References

/-! ## Calls of the managed side -/

/-- Whatever a connection rejects, it has spared the world. -/
theorem Socket.invoke_spared [Custodian σ] {host : Host σ Mark} {peer : Peer} {call : SocketCall}
    {error : BridgeError} (ran : invoke host peer call world = (.ok (.error error), after)) :
    world.Spared [] (error.counted world.own.metrics) after := by
  have only {result : Option Nat} {body : Call σ Mark Unit}
      (ended : (do body; return result : Call σ Mark (Option Nat)) world =
        (.ok (.error error), after)) : body world = (.ok (.error error), after) := by
    rcases callBind_rejected ended with rejected | ⟨_, _, _, returned⟩
    · exact rejected
    · cases returned
  cases call with
  | opened =>
      refine References.checkedBind_spared (fun first _ forwarded => ?_) (only ran)
      cases first with
      | true => exact effect_not_rejected forwarded
      | false => cases forwarded
  | httpResponse status headers =>
      exact References.checkedBind_spared (fun _ _ => effect_not_rejected) (only ran)
  | write data =>
      have began : write host peer data world = _ := callBind_of_ok rfl
      exact References.checkedBind_spared (fun _ _ => effect_not_rejected)
        (began.symm.trans (only ran))
  | completedReceive byteCount =>
      refine References.checkedBind_spared (fun _ _ rest => ?_) (only ran)
      obtain ⟨_, _, _, forwarded⟩ := effectBind_ok rest
      exact effect_not_rejected forwarded
  | closeRequest status message =>
      exact References.checkedBind_spared (fun _ _ => effect_not_rejected) (only ran)
  | closed error => exact absurd (only ran) effect_not_rejected
  | retain =>
      rcases References.checkedBind_cases ran with ⟨_, _, spared⟩ | ⟨_, _, _, returned⟩
      · exact spared
      · cases returned
  | release =>
      refine References.checkedBind_spared (fun remains _ finished => ?_) (only ran)
      cases remains with
      | none => cases finished
      | some remains => exact effect_not_rejected finished

/-! ## Reports of the native side -/

section Reports

variable [Custodian σ] {host : Host σ Mark} {handle : Handle} {peer : Peer} {target : TargetId}
  {event : SocketEvent} {error : BridgeError}

/-- A registration that was held for a call is held no more, whether the handle
stands for it or not. -/
theorem Custody.holding_spared (sound : world.Sound) {entry : EntryId} {body : BridgeM σ Mark α}
    {result : α} (ran : Custody.holding entry body world = (.ok result, after)) :
    ∃ ended, body (world.engage entry) = (.ok result, ended) ∧
      ∀ {done metrics}, (world.engage entry).Spared done metrics ended →
        world.Spared done metrics after := by
  obtain ⟨ended, engaging, cleaned⟩ := ensuring_ok ran
  obtain ⟨_, _, engage, given⟩ := bind_ok engaging
  cases engage
  refine ⟨ended, given, fun spared => ?_⟩
  have restored := spared.engaged
  obtain ⟨_, _, disengage, letGo⟩ := bind_ok cleaned
  cases disengage
  cases (letGo_of_sound (restored.sound sound) entry).symm.trans letGo
  exact restored

namespace Delivery

open References Registration

omit [Custodian σ] in
theorem noteIfAny_spared {notice : Option Notice} {nothing : Unit}
    (ran : noteIfAny notice world = (.ok nothing, after)) :
    world.Spared [] world.own.metrics after := by
  cases notice <;> cases ran
  · exact .refl world
  · exact .note world _

omit [Custodian σ] in
theorem dropIfAny_spared {buffer : Option (NativeBuffer Hook)} {nothing : Unit}
    (ran : dropIfAny buffer world = (.ok nothing, after)) :
    world.Spared ((buffer.toList.flatMap NativeBuffer.dropped).map .hookRan) world.own.metrics
      after := by
  cases buffer with
  | none =>
      cases ran
      exact .refl world
  | some buffer =>
      obtain ⟨_, dropping, spared⟩ := dropBuffer_spared buffer world
      cases dropping.symm.trans ran
      rw [Option.toList_some, List.flatMap_singleton]
      exact spared

omit [Custodian σ] in
theorem thenDropping_spared {buffer : NativeBuffer Hook} {body : Call σ Mark α}
    (spared : ∀ {ended}, body world = (.ok (.error error), ended) →
      world.Spared [] (error.counted world.own.metrics) ended)
    (ran : thenDropping buffer body world = (.ok (.error error), after)) :
    world.Spared (buffer.dropped.map .hookRan) (error.counted world.own.metrics) after := by
  obtain ⟨ended, rejected, drop⟩ := thenDropping_rejected ran
  obtain ⟨_, dropping, dropped⟩ := dropBuffer_spared buffer ended
  cases dropping.symm.trans drop
  have one := spared rejected
  rw [one.counters] at dropped
  exact one.trans dropped

/-- A delivery is rejected for want of a context only. -/
theorem deliver_wants (ran : deliver host peer target event world = (.ok (.error error), after)) :
    error.kind = .runtimeAttachment := by
  have began : deliver host peer target event world = _ := callBind_of_ok rfl
  obtain ⟨_, _, _, held⟩ := effectBind_ok (began.symm.trans ran)
  obtain ⟨answer, _, context, rest⟩ := effectBind_ok held
  cases answer with
  | ok delivered => exact absurd rest effect_not_rejected
  | error failure =>
      obtain ⟨_, _, _, thrown⟩ := effectBind_ok rest
      cases thrown
      obtain ⟨_, lent, _⟩ := ensuring_ok context
      obtain ⟨_, _, _, attached⟩ := bind_ok lent
      obtain ⟨_, rfl⟩ := Attachment.withAttachedContext_gives attached
      rfl

theorem deliverOr_wants {undo : BridgeM σ Mark Unit}
    (ran : deliverOr host peer target event undo world = (.ok (.error error), after)) :
    error.kind = .runtimeAttachment := by
  obtain ⟨_, delivered, _⟩ := deliverOr_rejected ran
  exact deliver_wants delivered

/-- Giving the native reference up is refused for a lapse only. -/
theorem releaseNative_lapses
    (ran : releaseNative .own peer world = (.ok (.error error), after)) :
    error.isLapse ≠ false := by
  cases stepped : (world.life peer.entry).releaseNative with
  | ok outcome =>
      have began : releaseNative .own peer world = _ := callBind_of_ok (checked_of_ok stepped)
      have finished := began.symm.trans ran
      cases given : outcome.1 with
      | none =>
          rw [given] at finished
          cases finished
      | some remains =>
          rw [given] at finished
          exact absurd finished effect_not_rejected
  | error refusal =>
      obtain ⟨_, refused⟩ : ∃ after, checked .own peer Lifecycle.releaseNative world =
          (.ok (.error (refusal.toError peer.handle)), after) := checked_ends stepped
      cases (callBind_of_rejected refused).symm.trans ran
      rw [refusal.toError_isLapse]
      unfold Lifecycle.releaseNative at stepped
      split at stepped
      · cases stepped
        nofun
      · split at stepped <;> cases stepped
        nofun

/-! ### A handle that stands for a registration -/

theorem onWriteCompleted_spared (sound : world.Sound) (known : world.peer? handle = some peer)
    {byteCount : Nat} (given : error.kind ≠ .runtimeAttachment)
    (ran : onWriteCompleted host handle byteCount world = (.ok (.error error), after)) :
    world.Spared [] (error.counted world.own.metrics) after := by
  have began : onWriteCompleted host handle byteCount world = _ :=
    callBind_of_ok (lookup_of_known known _)
  obtain ⟨_, held, restored⟩ := Custody.holding_spared sound (began.symm.trans ran)
  rcases checkedBind_cases held with ⟨_, _, spared⟩ | ⟨_, _, _, delivery⟩
  · exact restored spared
  · exact absurd (deliver_wants delivery) given

theorem onCloseRequest_spared (sound : world.Sound) (known : world.peer? handle = some peer)
    {status : Int} {message : Bytes} (given : error.kind ≠ .runtimeAttachment)
    (ran : onCloseRequest host handle status message world = (.ok (.error error), after)) :
    world.Spared [] (error.counted world.own.metrics) after := by
  have began : onCloseRequest host handle status message world = _ :=
    callBind_of_ok (lookup_of_known known _)
  obtain ⟨_, held, restored⟩ := Custody.holding_spared sound (began.symm.trans ran)
  rcases checkedBind_cases held with ⟨_, _, spared⟩ | ⟨_, _, _, rest⟩
  · exact restored spared
  · obtain ⟨_, _, _, delivery⟩ := effectBind_ok rest
    exact absurd (deliverOr_wants delivery) given

omit [Custodian σ] in
theorem enterReceived_spared {byteCount : Nat} {retained : Option (NativeBuffer Hook)}
    {hooks : List Hook} (freed : retained.toList.flatMap NativeBuffer.dropped = hooks)
    (ran : enterReceived peer byteCount retained world = (.ok (.error error), after)) :
    (∃ refusal : Refusal, error = refusal.toError peer.handle) ∧
      world.Spared (hooks.map .hookRan) (error.counted world.own.metrics) after := by
  subst freed
  obtain ⟨answer, middle, attempted, rest⟩ := effectBind_ok ran
  unfold attempt at attempted
  split at attempted
  · cases attempted
    cases rest
  · next refusal _ =>
      cases attempted
      obtain ⟨_, dropped, drop, rejected⟩ := effectBind_ok rest
      have dropping := dropIfAny_spared drop
      obtain ⟨rfl, reported⟩ := reject_spared (refusal.toError_drops peer.handle) rejected
      rw [dropping.counters] at reported
      have both := dropping.trans reported
      rw [List.append_nil] at both
      exact ⟨⟨refusal, rfl⟩, both⟩

/-- The bytes were taken over before they were refused. What is left of their
buffer is dropped. -/
theorem onReceived_spared (sound : world.Sound) (known : world.peer? handle = some peer)
    {data : NativeBuffer Hook} (given : error.kind ≠ .runtimeAttachment)
    (ran : onReceived host handle data world = (.ok (.error error), after)) :
    error ≠ .unknownHandle handle ∧ world.Spared (data.spent.dropped.map .hookRan)
      (error.counted world.own.metrics) after := by
  have began : onReceived host handle data world = _ :=
    effectBind_of_ok (show (lookup handle .received).run world = _ from lookup_of_known known _)
  obtain ⟨_, held, restored⟩ := Custody.holding_spared sound (began.symm.trans ran)
  cases taken : data.transfer with
  | error violation =>
      simp only [taken] at held
      have refused {ended : World σ Mark}
          (rejected : (reject .own (.invariantViolation none violation) : Call σ Mark Unit)
            (world.engage peer.entry) = (.ok (.error error), ended)) :=
        reject_spared rfl rejected
      rw [NativeBuffer.spent_of_refused taken]
      refine ⟨?_, restored (thenDropping_spared (fun rejected => (refused rejected).2) held)⟩
      obtain ⟨_, rejected, _⟩ := thenDropping_rejected held
      rw [(refused rejected).1]
      nofun
  | ok outcome =>
      obtain ⟨bytes, spent⟩ := outcome
      simp only [taken] at held
      rcases callBind_rejected held with refused | ⟨_, _, _, delivery⟩
      · have freed := NativeBuffer.dropped_lent taken
        unfold NativeBuffer.lent at freed
        rw [NativeBuffer.spent_of_transfer taken] at freed ⊢
        obtain ⟨⟨refusal, rfl⟩, spared⟩ := enterReceived_spared freed refused
        refine ⟨?_, restored spared⟩
        cases refusal <;> nofun
      · exact absurd (deliverOr_wants delivery) given

/-- The native reference is there to be given up when the callback is over. -/
theorem onClosed_spared (hostEvolves : host.Evolves) (sound : world.Sound)
    (known : world.peer? handle = some peer) {domain code : Int} {message : Bytes}
    (given : error.kind ≠ .runtimeAttachment)
    (ran : onClosed host handle domain code message world = (.ok (.error error), after)) :
    world.Spared [] (error.counted world.own.metrics) after := by
  have noLapse := onClosed_blameless hostEvolves sound _ _ ran
  have began : onClosed host handle domain code message world = _ :=
    callBind_of_ok (lookup_of_known known _)
  obtain ⟨_, held, restored⟩ := Custody.holding_spared sound (began.symm.trans ran)
  refine restored ?_
  obtain ⟨_, noted, note, rest⟩ := effectBind_ok held
  have noting := noteIfAny_spared note
  rcases checkedBind_cases rest with ⟨_, _, spared⟩ | ⟨_, _, _, rest⟩
  · rw [noting.counters] at spared
    exact noting.trans spared
  · obtain ⟨answer, _, delivery, rest⟩ := effectBind_ok rest
    cases answer with
    | error failure =>
        obtain ⟨_, _, _, thrown⟩ := effectBind_ok rest
        cases thrown
        exact absurd (deliver_wants (onPanic_ok delivery)) given
    | ok nothing => exact absurd noLapse (releaseNative_lapses rest)

private theorem opening_cases {address : Address} {options : Bytes}
    (ran : opening host handle address options peer world = (.ok (.error error), after)) :
    (∃ refusal : Refusal, error = refusal.toError peer.handle ∧
      world.Spared [] (error.counted world.own.metrics) after) ∨
    error.kind = .runtimeAttachment := by
  rcases checkedBind_cases ran with refused | ⟨_, _, _, rest⟩
  · exact .inl refused
  · rcases callBind_rejected rest with delivery | ⟨_, _, _, opened⟩
    · exact .inr (deliverOr_wants delivery)
    · obtain ⟨isOpen, _, _, noted⟩ := effectBind_ok opened
      cases isOpen with
      | true => exact absurd noted effect_not_rejected
      | false => cases noted

/-- The options of an open request are dropped at its end. -/
theorem onOpen_spared (sound : world.Sound) (known : world.peer? handle = some peer)
    {address : Address} {options : NativeBuffer Hook} (given : error.kind ≠ .runtimeAttachment)
    (ran : onOpen host handle address options world = (.ok (.error error), after)) :
    world.Spared (options.spent.dropped.map .hookRan) (error.counted world.own.metrics) after := by
  unfold onOpen at ran
  cases taken : options.transfer with
  | error violation =>
      simp only [taken] at ran
      rw [NativeBuffer.spent_of_refused taken]
      exact thenDropping_spared (fun rejected => (reject_spared rfl rejected).2) ran
  | ok outcome =>
      obtain ⟨bytes, spent⟩ := outcome
      simp only [taken] at ran
      rw [NativeBuffer.spent_of_transfer taken]
      refine thenDropping_spared (fun {ended} body => ?_) ran
      rcases callBind_rejected body with looked | ⟨_, _, look, rest⟩
      · cases looked
      · cases look
        rw [known] at rest
        obtain ⟨_, held, restored⟩ := Custody.holding_spared sound rest
        rcases opening_cases held with ⟨_, _, spared⟩ | wanting
        · exact restored spared
        · exact absurd wanting given

/-! ### A handle that nobody knows -/

omit [Custodian σ] in
theorem dropUnknown_spared {kind : EventKind}
    (ran : (dropUnknown handle kind : Call σ Mark α) world = (.ok (.error error), after)) :
    error = .unknownHandle handle ∧ world.Spared [] (error.counted world.own.metrics) after := by
  obtain ⟨_, _, dropping, thrown⟩ := effectBind_ok ran
  cases dropping
  cases thrown
  exact ⟨rfl, (World.Spared.count world Metrics.countDropped).trans (.note (world.count .own _) _)⟩

omit [Custodian σ] in
theorem lookup_spared (unknown : world.peer? handle = none) {kind : EventKind}
    (ran : lookup handle kind world = (.ok (.error error), after)) :
    error = .unknownHandle handle ∧ world.Spared [] (error.counted world.own.metrics) after := by
  have began : lookup handle kind world = _ := callBind_of_ok rfl
  rw [unknown] at began
  exact dropUnknown_spared (began.symm.trans ran)

omit [Custodian σ] in
/-- Nobody is found for the rest of the call. -/
theorem lookupBind_spared (unknown : world.peer? handle = none) {kind : EventKind}
    {rest : Peer → Call σ Mark α}
    (ran : (lookup handle kind >>= rest) world = (.ok (.error error), after)) :
    world.Spared [] (error.counted world.own.metrics) after := by
  rcases callBind_rejected ran with rejected | ⟨_, _, found, _⟩
  · exact (lookup_spared unknown rejected).2
  · have began : lookup handle kind world = _ := callBind_of_ok rfl
    rw [unknown] at began
    cases began.symm.trans found

omit [Custodian σ] in
theorem received_unknown_spared (unknown : world.peer? handle = none) [Custodian σ]
    {data : NativeBuffer Hook}
    (ran : onReceived host handle data world = (.ok (.error error), after)) :
    error = .unknownHandle handle ∧
      world.Spared (data.dropped.map .hookRan) (error.counted world.own.metrics) after := by
  obtain ⟨answer, looked, look, rest⟩ := effectBind_ok ran
  cases answer with
  | ok peer =>
      have began : lookup handle .received world = _ := callBind_of_ok rfl
      rw [unknown] at began
      cases began.symm.trans look
  | error failure =>
      obtain ⟨same, spared⟩ := lookup_spared unknown look
      obtain ⟨ended, thrown, drop⟩ := thenDropping_rejected rest
      cases thrown
      obtain ⟨_, dropping, dropped⟩ := dropBuffer_spared data looked
      cases dropping.symm.trans drop
      rw [spared.counters] at dropped
      exact ⟨same, spared.trans dropped⟩

theorem register_rejected {target : TargetId}
    (ran : register handle target world = (.ok (.error error), after)) :
    error = .duplicateHandle handle ∨ ∃ refusal : Refusal, error = refusal.toError handle := by
  obtain ⟨bound, _, bind, rest⟩ := effectBind_ok ran
  unfold bind? at bind
  cases inserted : world.own.registry.insert? handle ⟨world.entries.size⟩ with
  | none =>
      simp only [inserted] at bind
      cases bind
      obtain ⟨_, _, _, rejected⟩ := effectBind_ok rest
      exact .inl (reject_rejected rejected)
  | some registry =>
      simp only [inserted] at bind
      cases bind
      rcases checkedBind_cases rest with ⟨refusal, same, _⟩ | ⟨_, _, _, rest⟩
      · exact .inr ⟨refusal, same⟩
      · obtain ⟨_, _, _, returned⟩ := effectBind_ok rest
        cases returned

/-- Where there is a factory, nobody says that the handle is unknown. -/
theorem onOpen_knows {factory : FactoryId} (installed : world.factory = some factory)
    {address : Address} {bytes : Bytes} {named : Handle}
    (ran : (do
      let peer ← adoptFromFactory host handle address bytes
      Call.holding peer.entry (opening host handle address bytes peer) : Call σ Mark Unit) world =
        (.ok (.error error), after)) :
    error ≠ .unknownHandle named := by
  have refused (refusal : Refusal) (peer : Handle) : refusal.toError peer ≠ .unknownHandle named := by
    cases refusal <;> nofun
  rcases callBind_rejected ran with adopting | ⟨peer, _, _, opening⟩
  · have began : adoptFromFactory host handle address bytes world = _ := callBind_of_ok rfl
    rw [installed] at began
    obtain ⟨_, _, _, asking⟩ := effectBind_ok (began.symm.trans adopting)
    obtain ⟨answer, _, _, rest⟩ := effectBind_ok asking
    cases answer with
    | error declined =>
        obtain ⟨_, _, _, thrown⟩ := effectBind_ok rest
        cases thrown
        nofun
    | ok target =>
        rcases register_rejected rest with rfl | ⟨refusal, rfl⟩
        · nofun
        · exact refused refusal handle
  · obtain ⟨_, held, _⟩ := ensuring_ok opening
    obtain ⟨_, _, _, body⟩ := bind_ok held
    rcases opening_cases body with ⟨refusal, rfl, _⟩ | wanting
    · exact refused refusal peer.handle
    · rintro rfl
      cases wanting

theorem onOpen_unknown_spared (unknown : world.peer? handle = none) {address : Address}
    {options : NativeBuffer Hook} {named : Handle}
    (ran : onOpen host handle address options world = (.ok (.error (.unknownHandle named)), after)) :
    world.Spared (options.spent.dropped.map .hookRan)
      ((BridgeError.unknownHandle named).counted world.own.metrics) after := by
  unfold onOpen at ran
  cases taken : options.transfer with
  | error violation =>
      simp only [taken] at ran
      obtain ⟨_, rejected, _⟩ := thenDropping_rejected ran
      cases reject_rejected rejected
  | ok outcome =>
      obtain ⟨bytes, spent⟩ := outcome
      simp only [taken] at ran
      rw [NativeBuffer.spent_of_transfer taken]
      refine thenDropping_spared (fun {ended} body => ?_) ran
      rcases callBind_rejected body with looked | ⟨_, _, look, rest⟩
      · cases looked
      · cases look
        rw [unknown] at rest
        cases installed : world.factory with
        | some factory => exact absurd rfl (onOpen_knows installed rest)
        | none =>
            have began : adoptFromFactory host handle address bytes world = _ := callBind_of_ok rfl
            rw [installed] at began
            rcases callBind_rejected rest with adopting | ⟨_, _, adopted, _⟩
            · exact (dropUnknown_spared (began.symm.trans adopting)).2
            · cases began.symm.trans adopted

/-- A report is rejected by a check: it is of a handle that nobody knows, or of
one that stands for a registration, where a context is not what is wanting. -/
theorem dispatch_spared (hostEvolves : host.Evolves) (sound : world.Sound)
    {reported : NativeEvent}
    (turned : (∃ named, error = .unknownHandle named) ∨
      (world.peer? handle).isSome = true ∧ error.kind ≠ .runtimeAttachment)
    (ran : dispatch host handle reported world = (.ok (.error error), after)) :
    world.Spared (((reported.frees handle (.rejected error)).getD []).map .hookRan)
      (error.counted world.own.metrics) after := by
  cases known : world.peer? handle with
  | some peer =>
      have given : error.kind ≠ .runtimeAttachment := by
        rcases turned with ⟨named, rfl⟩ | ⟨_, given⟩
        · nofun
        · exact given
      cases reported with
      | openRequest address options => exact onOpen_spared sound known given ran
      | writeCompleted byteCount => exact onWriteCompleted_spared sound known given ran
      | received data =>
          obtain ⟨other, spared⟩ := onReceived_spared sound known given ran
          simp only [NativeEvent.frees, if_neg other, Option.getD_some]
          exact spared
      | closeRequest status message => exact onCloseRequest_spared sound known given ran
      | closed domain code message => exact onClosed_spared hostEvolves sound known given ran
  | none =>
      cases reported with
      | openRequest address options =>
          obtain ⟨named, rfl⟩ | ⟨found, _⟩ := turned
          · exact onOpen_unknown_spared known ran
          · rw [known] at found
            cases found
      | writeCompleted byteCount => exact lookupBind_spared known ran
      | received data =>
          obtain ⟨rfl, spared⟩ := received_unknown_spared known ran
          simp only [NativeEvent.frees, if_true, Option.getD_some]
          exact spared
      | closeRequest status message => exact lookupBind_spared known ran
      | closed domain code message => exact lookupBind_spared known ran

end Delivery

/-! ## Adoptions -/

/-- A target is given up: it forgets what it knew, unless somebody holds it. -/
def World.givingUp (world : World σ Mark) (target : TargetId) : World σ Mark :=
  if world.keeps target then world
  else { world with host := (Custodian.forget target world.host).2 }

theorem World.givingUp_books (world : World σ Mark) (target : TargetId) :
    (world.givingUp target).entries = world.entries ∧ (world.givingUp target).own = world.own ∧
      (world.givingUp target).runtime = world.runtime := by
  unfold givingUp
  split <;> exact ⟨rfl, rfl, rfl⟩

theorem World.givingUp_push (world : World σ Mark) (target : TargetId) (moment : Moment Mark) :
    (world.push moment).givingUp target = (world.givingUp target).push moment := by
  unfold givingUp
  show (if world.keeps target = true then _ else _) = _
  split <;> rfl

theorem Custody.letGoOfTarget_gives_up (sound : world.Sound) (target : TargetId) :
    letGoOfTarget target world = (.ok (), world.givingUp target) := by
  unfold World.givingUp
  split
  · next kept => exact letGoOfTarget_of_keeps kept
  · next unkept =>
      let forgone : World σ Mark := { world with host := (Custodian.forget target world.host).2 }
      have forget : forgetTarget target world =
          (.ok (Custodian.forget target world.host).1, forgone) := by
        unfold forgetTarget
        rw [if_neg unkept]
      have began : letGoOfTarget target world = _ := bind_of_ok forget
      rw [began]
      have forgoneSound : forgone.Sound := sound.of_same rfl rfl
      cases (Custodian.forget target world.host).1 with
      | none => rfl
      | some known => exact letGo_of_sound forgoneSound known

namespace Registration

/-- A handle that is taken is not bound anew. The target is given up, and what
is reported is all that comes of it. -/
theorem register_of_taken (sound : world.Sound)
    (taken : world.own.registry.insert? handle ⟨world.entries.size⟩ = none) (target : TargetId) :
    ∃ after, register handle target world = (.ok (.error (.duplicateHandle handle)), after) ∧
      (world.givingUp target).Spared []
        ((BridgeError.duplicateHandle handle).counted world.own.metrics) after := by
  have unbound : bind? handle target world = (.ok none, world) := by
    unfold bind?
    simp only [taken]
  have began : register handle target world = _ := (effectBind_of_ok unbound).trans
    (effectBind_of_ok (Custody.letGoOfTarget_gives_up sound target))
  obtain ⟨after, rejected⟩ := References.reject_ends (world.givingUp target) .own
    (.duplicateHandle handle)
  have spared := (References.reject_spared rfl rejected).2
  rw [(world.givingUp_books target).2.1] at spared
  exact ⟨after, began.trans rejected, spared⟩

theorem adoptInbound_spared (sound : world.Sound) {target : TargetId}
    (ran : adoptInbound handle target world = (.ok (.error error), after)) :
    (world.givingUp target).Spared [] (error.counted world.own.metrics) after := by
  cases inserted : world.own.registry.insert? handle ⟨world.entries.size⟩ with
  | some registry => cases (register_of_inserted inserted target).symm.trans ran
  | none =>
      obtain ⟨_, rejected, spared⟩ := register_of_taken sound inserted target
      cases rejected.symm.trans ran
      exact spared

end Registration

/-! ## Calls that are turned away -/

/-- A check rejects the call: that of a connection, or of an adoption, or that
of a report, be it of a handle that nobody knows or of one that stands for a
registration. -/
inductive BridgeCall.TurnedAway (world : World σ Mark) : BridgeCall → BridgeError → Prop where
  | socket (entry : EntryId) (call : SocketCall) (error : BridgeError) :
      TurnedAway world (.socket entry call) error
  | adoption (handle : Handle) (target : TargetId) (error : BridgeError) :
      TurnedAway world (.adoptInbound handle target) error
  | unknown (handle : Handle) (reported : NativeEvent) (named : Handle) :
      TurnedAway world (.native handle reported) (.unknownHandle named)
  | known {handle : Handle} (known : (world.peer? handle).isSome = true) (reported : NativeEvent)
      {error : BridgeError} (given : error.kind ≠ .runtimeAttachment) :
      TurnedAway world (.native handle reported) error

omit [Custodian σ] in
theorem BridgeCall.TurnedAway.along_push {call : BridgeCall} (turned : call.TurnedAway world error)
    (moment : Moment Mark) : call.TurnedAway (world.push moment) error := by
  cases turned with
  | socket entry call => exact .socket entry call error
  | adoption handle target => exact .adoption handle target error
  | unknown handle reported named => exact .unknown handle reported named
  | @known handle known reported error given =>
      have still : ((world.push moment).peer? handle).isSome = true := known
      exact .known still reported given

/-- The world in which a rejected call has given its target up, if it came with
one. -/
def World.forgoing (world : World σ Mark) : BridgeCall → World σ Mark
  | .adoptInbound _ target => world.givingUp target
  | _ => world

theorem World.forgoing_push (world : World σ Mark) (call : BridgeCall) (moment : Moment Mark) :
    (world.push moment).forgoing call = (world.forgoing call).push moment := by
  cases call with
  | adoptInbound _ target => exact world.givingUp_push target moment
  | _ => rfl

theorem World.forgoing_metrics (world : World σ Mark) (call : BridgeCall) :
    (world.forgoing call).own.metrics = world.own.metrics := by
  cases call with
  | adoptInbound _ target => exact congrArg Ledger.metrics (world.givingUp_books target).2.1
  | _ => rfl

/-- The hooks that a rejected call runs: those of the buffer that it came
with. -/
def BridgeCall.freed (error : BridgeError) : BridgeCall → List Hook
  | .native handle reported => (reported.frees handle (.rejected error)).getD []
  | _ => []

/-- All that is done by a call that is turned away, the log apart. -/
def BridgeCall.vainly (call : BridgeCall) (error : BridgeError) : List (Moment Mark) :=
  .marked (.called call) :: ((call.freed error).map .hookRan ++
    [.marked (.replied call (.rejected error))])

omit [Custodian σ] in
/-- A rejection that the caller is told of. -/
theorem replyTo_rejected {call : Call σ Mark α} {answer : α → Reply}
    (ran : replyTo call answer world = (.ok (.rejected error), after))
    (answers : ∀ result, answer result ≠ .rejected error) :
    call world = (.ok (.error error), after) := by
  obtain ⟨given, _, called, replied⟩ := bind_ok ran
  obtain ⟨same, rfl⟩ := Prod.mk.inj replied
  cases given with
  | ok result => exact absurd (Except.ok.inj same) (answers result)
  | error refusal =>
      obtain rfl := Reply.rejected.inj (Except.ok.inj same)
      exact called

/-- A call that is turned away has spared the world. -/
theorem BridgeCall.perform_spared (hostEvolves : host.Evolves) (sound : world.Sound)
    {call : BridgeCall} (turned : call.TurnedAway world error)
    (ran : call.perform host world = (.ok (.rejected error), after)) :
    (world.forgoing call).Spared ((call.freed error).map .hookRan)
      (error.counted world.own.metrics) after := by
  cases turned with
  | socket entry call =>
      obtain ⟨_, _, look, rest⟩ := bind_ok ran
      cases look
      cases found : world.entry? entry with
      | none =>
          rw [found] at rest
          cases rest
      | some registration =>
          rw [found] at rest
          obtain ⟨_, replied, restored⟩ := Custody.holding_spared sound rest
          refine restored (Socket.invoke_spared (replyTo_rejected replied fun result => ?_))
          cases result <;> nofun
  | adoption handle target =>
      exact Registration.adoptInbound_spared sound (replyTo_rejected ran fun _ => nofun)
  | unknown handle reported named =>
      exact Delivery.dispatch_spared hostEvolves sound (.inl ⟨named, rfl⟩)
        (replyTo_rejected ran fun _ => nofun)
  | known known reported given =>
      exact Delivery.dispatch_spared hostEvolves sound (.inr ⟨known, given⟩)
        (replyTo_rejected ran fun _ => nofun)

/-- A rejected call, between its marks. -/
theorem BridgeCall.rejected_of_made {behaviour : Behaviour σ} {depth : Nat} {call : BridgeCall}
    (ran : call.make behaviour (depth + 1) world = (.ok (.rejected error), after)) :
    ∃ ended, call.perform (behaviour.host (make behaviour depth))
        (world.push (.marked (.called call))) = (.ok (.rejected error), ended) ∧
      after = ended.push (.marked (.replied call (.rejected error))) := by
  rw [make_runs] at ran
  obtain ⟨told, rfl⟩ := Prod.mk.inj ran
  have performed := Reply.ok_of_rejected (Except.ok.inj told)
  refine ⟨_, Prod.ext performed rfl, ?_⟩
  unfold replied
  rw [performed]
  rfl

/-- A call that is turned away has spared the world that it was made in. -/
theorem BridgeCall.make_spared (sound : world.Sound) {behaviour : Behaviour σ} {depth : Nat}
    {call : BridgeCall} (turned : call.TurnedAway world error)
    (ran : call.make behaviour depth world = (.ok (.rejected error), after)) :
    (world.forgoing call).Spared (call.vainly error) (error.counted world.own.metrics) after := by
  cases depth with
  | zero => cases ran
  | succ depth =>
      obtain ⟨ended, performed, rfl⟩ := BridgeCall.rejected_of_made ran
      let called : Moment Mark := .marked (.called call)
      let answer : Moment Mark := .marked (.replied call (.rejected error))
      have begun : (world.forgoing call).Spared [called] world.own.metrics
          ((world.push called).forgoing call) := by
        rw [World.forgoing_push, ← world.forgoing_metrics call]
        exact .push _ rfl
      have spared : ((world.push called).forgoing call).Spared _
          (error.counted world.own.metrics) ended :=
        BridgeCall.perform_spared (behaviour.host_make_evolves depth) (sound.push called)
          (turned.along_push called) performed
      have replied : ended.Spared [answer] (error.counted world.own.metrics)
          (ended.push answer) := by
        rw [← spared.counters]
        exact .push ended rfl
      exact begun.trans (spared.trans replied)

/-- A call on a registration goes to its connection. -/
theorem BridgeCall.perform_of_genuine (genuine : world.Genuine peer) (host : Host σ Mark)
    (call : SocketCall) : (BridgeCall.socket peer.entry call).perform host world =
      Custody.holding peer.entry (replyTo (Socket.invoke host peer call) .ofCount) world := by
  obtain ⟨id, handle⟩ := peer
  obtain ⟨registration, found, rfl⟩ := genuine
  have began : (BridgeCall.socket id call).perform host world = _ := bind_of_ok rfl
  rw [began, found]

/-- A call of a connection is answered as what it invokes is, and has spared the
world where that has. -/
theorem BridgeCall.socket_spared (sound : world.Sound) (genuine : world.Genuine peer)
    {behaviour : Behaviour σ} {depth : Nat} {call : SocketCall}
    {answer : Except BridgeError (Option Nat)} {done : World σ Mark} {metrics : Metrics}
    (invoked : Socket.invoke (behaviour.host (make behaviour depth)) peer call
      ((world.push (.marked (.called (.socket peer.entry call)))).engage peer.entry) =
        (.ok answer, done))
    (spared : ((world.push (.marked (.called (.socket peer.entry call)))).engage
      peer.entry).Spared [] metrics done) :
    let reply := Reply.ofAnswer .ofCount answer
    ∃ after, (BridgeCall.socket peer.entry call).make behaviour (depth + 1) world =
        (.ok reply, after) ∧
      world.Spared [.marked (.called (.socket peer.entry call)),
        .marked (.replied (.socket peer.entry call) reply)] metrics after := by
  intro reply
  let called : Moment Mark := .marked (.called (.socket peer.entry call))
  let answered : Moment Mark := .marked (.replied (.socket peer.entry call) reply)
  have calledSound : (world.push called).Sound := sound.push called
  have heldSound : ((world.push called).engage peer.entry).Sound := calledSound.of_same rfl rfl
  have held : replyTo (Socket.invoke (behaviour.host (make behaviour depth)) peer call) .ofCount
      ((world.push called).engage peer.entry) = (.ok reply, done) := bind_of_ok invoked
  obtain ⟨ended, ran, _⟩ := Custody.holding_runs held (spared.sound heldSound)
  obtain ⟨_, again, restored⟩ := Custody.holding_spared calledSound ran
  cases held.symm.trans again
  have stands : (world.push called).Genuine peer := genuine
  have performed := (perform_of_genuine stands (behaviour.host (make behaviour depth)) call).trans ran
  refine ⟨ended.push answered, make_of_performed performed, ?_⟩
  have begun : world.Spared [called] world.own.metrics (world.push called) := .push world rfl
  have replied : ended.Spared [answered] metrics (ended.push answered) := by
    rw [← (restored spared).counters]
    exact .push ended rfl
  exact begun.trans ((restored spared).trans replied)

/-- A call that is turned away has done nothing. In any world that user code
comes to see, between calls or within them, every registration is left as it
was, with its lifecycle and its pin, and so is the registry. No target and no
engine is called. The counter of such calls may be one more, the log goes on,
and the buffer that the call came with is dropped. -/
theorem Attained.spared_of_turnedAway (attained : Attained world) {behaviour : Behaviour σ}
    {depth : Nat} {call : BridgeCall} (turned : call.TurnedAway world error)
    (ran : call.make behaviour depth world = (.ok (.rejected error), after)) :
    (world.forgoing call).Spared (call.vainly error) (error.counted world.own.metrics) after :=
  BridgeCall.make_spared attained.sound turned ran

/-- On an open connection with three bytes unconfirmed, four are confirmed. The
confirmation is turned away, and the three are unconfirmed as before. -/
theorem spared_of_excess :
    let report := BridgeCall.native Bystander.handle (.writeCompleted 4)
    let error : BridgeError := .invariantViolation (some Bystander.handle) (.completionExceeds 4 3)
    let after := (report.make .silent 1 Bystander.opened).2
    (report.make .silent 1 Bystander.opened).1 = .ok (.rejected error) ∧
      Bystander.opened.Spared [.marked (.called report), .marked (.replied report (.rejected error))]
        Bystander.opened.own.metrics.countViolation after ∧
      (after.life ⟨0⟩).pendingWrite = 3 := by
  intro report error after
  have attained : Attained Bystander.opened := (Bystander.reachable_inTurn _ _ _).attained
  have known : (Bystander.opened.peer? Bystander.handle).isSome = true := by decide +kernel
  have told : (report.make .silent 1 Bystander.opened).1 = .ok (.rejected error) :=
    Reply.ok_of_rejected (by decide +kernel)
  have spared := attained.spared_of_turnedAway (.known known (.writeCompleted 4) (by decide))
    (Prod.ext told rfl : report.make .silent 1 Bystander.opened = (.ok (.rejected error), after))
  exact ⟨told, spared, by decide +kernel⟩

end Reports

end TransportBridge
