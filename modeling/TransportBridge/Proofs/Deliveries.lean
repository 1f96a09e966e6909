import TransportBridge.Proofs.Accounts

/-!
Contract: a delivery with its accounts.

Either the target is told, by one callback that is counted when it returns, or
the delivery misses for want of a context, and that is counted twice: as an
attachment that failed and as an event that was dropped.

Owns: the laws of serving a report, and deliveries, with and without a way
back. Of what the bridge calls it is assumed that it keeps accounts of its own.

Does not own: the entry points of the native side.
-/

namespace TransportBridge

section Deliveries

variable {σ α : Type} {world middle after : World σ Mark}

/-! ## Reports -/

namespace World

variable {own : List (Moment Mark)} {charge : Counter → Nat} {handle : Handle} {event : NativeEvent}

/-- A report is still one that has neither called back nor run a hook. -/
theorem Reports.along (reports : world.Reports handle event)
    (accounts : world.Accounts own charge after) (silent : own.filter Moment.isCallback = [])
    (clean : own.filterMap Moment.hook? = []) : after.Reports handle event := by
  obtain ⟨frame, outer, frames, call, uncalled, unhooked⟩ := reports
  refine ⟨{ frame with own := frame.own ++ own }, outer, ?_, call, ?_, ?_⟩
  · rw [accounts.frames, frames]
    rfl
  · exact (List.filter_append _ _).trans (by rw [silent, List.append_nil]; exact uncalled)
  · exact List.filterMap_append.trans (by rw [clean, List.append_nil]; exact unhooked)

/-- A report may drop its buffer once; that of received bytes only before they
have come in. -/
theorem Reports.drops (reports : world.Reports handle event)
    (accounts : world.Accounts own charge after) (clean : own.filterMap Moment.hook? = [])
    (silent : event.kind = .received → own.filter Moment.isCallback = []) {hooks : List Hook}
    (within : hooks.Sublist event.hooks) : after.Drops hooks := by
  obtain ⟨frame, outer, frames, call, uncalled, unhooked⟩ := reports
  refine ⟨{ frame with own := frame.own ++ own }, outer, handle, event, ?_, call, ?_, ?_, within⟩
  · rw [accounts.frames, frames]
    rfl
  · exact List.filterMap_append.trans (by rw [clean, List.append_nil]; exact unhooked)
  · intro received
    exact (List.filter_append _ _).trans (by rw [silent received, List.append_nil]; exact uncalled)

end World

/-! ## Serving -/

namespace World

variable {handle : Handle} {event : NativeEvent}

theorem Plain.peer? (plain : world.Plain after) (handle : Handle) :
    after.peer? handle = world.peer? handle := by
  unfold World.peer?
  rw [plain.registry]

theorem Reaches.after_plain {peer : Peer} {target : TargetId} (plain : world.Plain middle)
    (reaches : middle.Reaches handle peer target after) :
    world.Reaches handle peer target after where
  named := reaches.named
  stands := by
    rw [← plain.peer?, ← plain.found]
    exact reaches.stands
  found := reaches.found

/-- A registration that has been reached is there for good. -/
theorem Reaches.along {peer : Peer} {target : TargetId}
    (reaches : world.Reaches handle peer target middle) (path : Path middle after)
    (sound : middle.Sound) : world.Reaches handle peer target after where
  named := reaches.named
  stands := reaches.stands
  found := by
    obtain ⟨entry, found, rfl, rfl⟩ := reaches.found
    exact path.entry_kept sound found

namespace Serves

variable [Custodian σ] {may : Latitude σ} {own later : List (Moment Mark)}
  {outcome : Except Panic (Except BridgeError Unit)}

/-- A report is rejected, and nobody has been told. -/
theorem of_rejected {error : BridgeError} {charge : Counter → Nat}
    (recounts : world.Recounts may own charge after)
    (silent : own.filter Moment.isCallback = []) (charged : error.charged = charge) :
    world.Serves may handle event own (.ok (.error error)) after where
  toRecounts := by
    subst charged
    exact recounts
  told delivered := absurd rfl (delivered error)
  rejected _ _ := silent

theorem after_still (still : world.Still middle)
    (serves : middle.Serves may handle event own outcome after) :
    world.Serves may handle event own outcome after where
  toRecounts := .after_idle (.of_quiet still) serves.toRecounts
  told delivered := by
    rcases serves.told delivered with ⟨peer, target, attached, told, reaches⟩ | panicked
    · exact .inl ⟨peer, target, attached, told, reaches.after_plain still.toPlain⟩
    · exact .inr panicked
  rejected := serves.rejected

/-- Something is done after all have been told who are to be told. -/
theorem trans (serves : world.Serves may handle event own outcome middle) (sound : world.Sound)
    (more : middle.Recounts may later 0 after) (silent : later.filter Moment.isCallback = []) :
    world.Serves may handle event (own ++ later) outcome after where
  toRecounts := by
    have both := serves.toRecounts.trans more
    rwa [add_zero] at both
  told delivered := by
    rcases serves.told delivered with ⟨peer, target, attached, told, reaches⟩ | panicked
    · refine .inl ⟨peer, target, attached, ?_,
        reaches.along more.trail.path (serves.trail.sound sound)⟩
      rw [List.filter_append, told, silent, List.append_nil]
    · exact .inr panicked
  rejected error rejected := by
    rw [List.filter_append, serves.rejected error rejected, silent, List.append_nil]

theorem then_idle (serves : world.Serves may handle event own outcome middle)
    (sound : world.Sound) (more : middle.Recounts may [] 0 after) :
    world.Serves may handle event own outcome after := by
  have both := serves.trans sound more rfl
  rwa [List.append_nil] at both

end Serves

end World

/-- The innermost call is a report that the lifecycle of a standing registration
accepts. -/
structure World.Admits (world : World σ Mark) (peer : Peer) (event : NativeEvent)
    (target : TargetId) (next : Lifecycle) : Prop extends world.Orderly where
  stands : world.peer? peer.handle = some peer
  reports : world.Reports peer.handle event
  accepts : (world.life peer.entry).Accepts event.told target next
  entered : next.receives = (world.life peer.entry).receives ++ event.entered

namespace World.Admits

variable {peer : Peer} {event : NativeEvent} {target : TargetId} {next : Lifecycle}

theorem genuine (admits : world.Admits peer event target next) : world.Genuine peer :=
  Registration.genuine_of_peer? admits.sound admits.stands

/-- The target is that of the registration. -/
theorem reaches (admits : world.Admits peer event target next) :
    world.Reaches peer.handle peer target world where
  named := rfl
  stands := .inl admits.stands
  found := by
    obtain ⟨entry, found, handle⟩ := admits.genuine
    have pin := admits.accepts.keeps.pin.symm.trans admits.accepts.pinned
    rw [World.life_of_entry found] at pin
    exact ⟨entry, found, handle, admits.pinned _ entry found target pin⟩

/-- The callback begins together with the acceptance. -/
theorem telling [Custodian σ] {may : Latitude σ} (admits : world.Admits peer event target next)
    {ready : World σ Mark} (still : (world.setLife peer.entry next).Still ready)
    (attached : Option Bool) :
    world.Recounts may [.callback peer target event.told attached] 0
      (ready.push (.callback peer target event.told attached)) := by
  refine .of_grain (.called admits.genuine admits.accepts admits.entered admits.reports still
    attached) ?_ still.counted
  rw [World.acts_push, still.acts, List.map_nil, List.append_nil]
  rfl

end World.Admits

namespace Delivery

open References Registration

variable [Custodian σ] {may : Latitude σ} {host : Host σ Mark} {peer : Peer} {target : TargetId}
  {event : NativeEvent} {told : SocketEvent} {next : Lifecycle}

/-! ## Deliveries -/

theorem dropIfAny_quietly (buffer : Option (NativeBuffer Hook)) :
    Quietly (dropIfAny buffer : BridgeM σ Mark Unit) (buffer.toList.flatMap NativeBuffer.dropped) 0
      world := by
  cases buffer with
  | none => exact .pure ()
  | some buffer =>
      rw [Option.toList_some, List.flatMap_singleton]
      exact .dropBuffer buffer

theorem noteIfAny_quietly {notice : Option Notice}
    (noLapse : ∀ {noted}, notice = some noted → noted.isLapse = false) :
    Quietly (noteIfAny notice : BridgeM σ Mark Unit) [] 0 world := by
  cases notice with
  | none => exact .pure ()
  | some notice => exact .note notice (noLapse rfl)

omit [Custodian σ] in
/-- The log tells of the event that is dropped. -/
theorem drops_of_dropped (world : World σ Mark) (peer : Peer) (event : SocketEvent)
    (error : BridgeError) : world.drops peer.handle event.kind <
      (world.eventDropped peer event error).drops peer.handle event.kind := by
  show _ < (World.push _ _).drops _ _
  rw [World.drops_push, if_pos (by simp [Moment.isDrop])]
  exact Nat.lt_succ_self _

/-- A delivery either misses, and that is counted, or tells the target, and is
counted when the callback returns. -/
theorem deliver_serves (hostRecounts : host.Recounts may)
    (admits : world.Admits peer event target next) (tells : event.told = told)
    {accepted : World σ Mark} (accepting : (world.setLife peer.entry next).Still accepted) :
    (∃ failure after, deliver host peer target told accepted =
        (.ok (.error (.runtimeAttachment told.name failure)), after) ∧
      (world.setLife peer.entry next).Quiet []
        (BridgeError.runtimeAttachment told.name failure).charged after ∧
      world.drops peer.handle told.kind < after.drops peer.handle told.kind) ∨
    ∃ (attached : Option Bool) (outcome : Except Panic Unit) (after : World σ Mark),
      deliver host peer target told accepted = (outcome.map .ok, after) ∧
      world.Serves may peer.handle event [.callback peer target told attached]
        (outcome.map .ok) after ∧
      .callback told.kind ∈ after.deeds peer.entry ∧
      ∀ id, (after.life id).Closing ↔ ((world.setLife peer.entry next).life id).Closing := by
  subst tells
  let told := event.told
  have nextOrderly := admits.toOrderly.accepted admits.genuine admits.accepts
  have prepared := accepting.then_still (.dispatching accepted peer target told)
  rcases Attachment.withAttachedContext_quietly told.name (fun _ => invoke host peer target told)
    (accepted.dispatching peer target told) with
    ⟨failure, missed, context, quiet⟩ | ⟨_, ready, held, still, granted⟩
  · have missing := prepared.after_still quiet
    obtain ⟨_, given, give, giving⟩ :=
      Custody.giveBack_quietly (nextOrderly.sound.plain missing.toPlain) target
    have charging := missing.then_still giving
    refine .inl ⟨failure, _, deliver_missed context give, ?_, ?_⟩
    · rw [BridgeError.charged_runtimeAttachment]
      exact charging.trans (.eventDropped given peer told _ rfl)
    · exact Nat.lt_of_le_of_lt (charging.drops peer.handle told.kind)
        (drops_of_dropped given peer told _)
  · have readied := prepared.then_still still
    let begun := ready.calling peer target told
    have begunOrderly : begun.Orderly := (nextOrderly.plain readied.toPlain).push _
    have evolves := hostRecounts.evolves.callback begunOrderly.sound peer target told
    have recounts := hostRecounts.callback begunOrderly peer target told
    cases returned : host.callback peer target told begun with
    | mk outcome done =>
        rw [returned] at evolves recounts
        obtain ⟨_, dropped, drop, dropping⟩ : Quietly (Attachment.drop held) [] 0 done :=
          Attachment.drop_quietly held
        obtain ⟨_, given, give, giving⟩ := Custody.giveBack_quietly
          ((evolves.then_plain dropping.toPlain).sound begunOrderly.sound) target
        have counting : given.Quiet [] (charged (outcome.map .ok)) (given.dispatched outcome) := by
          cases outcome with
          | ok nothing => exact .dispatched given
          | error panic => exact .refl given
        have ending := dropping.then_still giving |>.after_still counting
        have telling : world.Recounts may _ _ begun := admits.telling readied ready.attached?
        have more := recounts.after_idle (.of_quiet ending)
        refine .inr ⟨ready.attached?, outcome, given.dispatched outcome,
          deliver_called granted returned drop give, ⟨telling.then_charge more, ?_, ?_⟩, ?_, ?_⟩
        · intro _
          exact .inl ⟨peer, target, ready.attached?, rfl,
            admits.reaches.along (telling.trans more).trail.path admits.sound⟩
        · intro error rejected
          cases outcome <;> cases rejected
        · have begins : .callback told.kind ∈ begun.deeds peer.entry := by
            show _ ∈ (ready.push _).deeds peer.entry
            rw [World.deeds_push]
            simp [Moment.deed?]
          exact (more.trail.path.deeds_prefix peer.entry).subset begins
        · intro id
          rw [(evolves.then_plain ending.toPlain).closing]
          exact iff_of_eq (congrArg Lifecycle.Closing (readied.life id))

/-- Delivering with a way back that frees what is left of the report's
buffer. -/
theorem deliverOr_serves (hostRecounts : host.Recounts may)
    (admits : world.Admits peer event target next) (tells : event.told = told)
    {accepted : World σ Mark} (accepting : (world.setLife peer.entry next).Still accepted)
    {undo : BridgeM σ Mark Unit} {left : Lifecycle} {freed : List Hook}
    (misses : (world.life peer.entry).Misses told left)
    (undone : ∀ missed charge, (world.setLife peer.entry next).Quiet [] charge missed →
      ∃ restored after, undo missed = (.ok (), after) ∧
        (world.setLife peer.entry left).Quiet [] charge restored ∧ restored.trace = missed.trace ∧
        restored.Recounts may (freed.map .hookRan) 0 after) :
    (∃ failure after, deliverOr host peer target told undo accepted =
        (.ok (.error (.runtimeAttachment told.name failure)), after) ∧
      world.Serves may peer.handle event (freed.map .hookRan)
        (.ok (.error (.runtimeAttachment told.name failure))) after) ∨
    ∃ (attached : Option Bool) (outcome : Except Panic Unit) (after : World σ Mark),
      deliverOr host peer target told undo accepted = (outcome.map .ok, after) ∧
      world.Serves may peer.handle event [.callback peer target told attached]
        (outcome.map .ok) after ∧
      .callback told.kind ∈ after.deeds peer.entry := by
  rcases deliver_serves hostRecounts admits tells accepting with
    ⟨failure, missed, ran, quiet, dropped⟩ | ⟨attached, outcome, after, ran, serves, told, _⟩
  · obtain ⟨restored, after, undo, quiet, trace, freeing⟩ := undone missed _ quiet
    refine .inl ⟨failure, after, (effectBind_of_ok ran).trans (effectBind_of_ok undo), ?_⟩
    rw [← World.drops_of_trace trace] at dropped
    exact .of_rejected (.after_charge (.of_missed admits.genuine misses quiet dropped) freeing)
      (Moment.hooks_hookRan freed).2 rfl
  · refine .inr ⟨attached, outcome, after, ?_, serves, told⟩
    cases outcome with
    | error panic => exact effectBind_of_error ran
    | ok result => exact effectBind_of_ok ran

end Delivery

end Deliveries

end TransportBridge
