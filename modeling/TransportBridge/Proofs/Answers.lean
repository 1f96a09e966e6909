import TransportBridge.Proofs.Deliveries

/-!
Contract: every report of the native side is served.

The target is told by one callback, or the report is rejected and nobody is
told; the counters grow as the reply has it; and the buffer that the report
came with is dropped, kept or given away, once.

Owns: the rules by which a call serves a report, registrations with their
accounts, and the five entry points.
-/

namespace TransportBridge

/-! ## Buffers -/

namespace NativeBuffer

variable {buffer spent : NativeBuffer Hook} {bytes : Bytes} {violation : Violation}

theorem data_of_transfer (taken : buffer.transfer = .ok (bytes, spent)) :
    buffer.data = some bytes := by
  unfold transfer view at taken
  cases ownership : buffer.ownership <;> cases data : buffer.data <;>
    simp [ownership, data] at taken
  all_goals rw [taken.1]

theorem spent_of_refused (refused : buffer.transfer = .error violation) :
    buffer.spent = buffer := by
  unfold NativeBuffer.spent
  rw [refused]

/-- What is kept of a buffer that has been transferred runs the hooks that are
left. -/
theorem dropped_lent (taken : buffer.transfer = .ok (bytes, spent)) :
    buffer.lent.toList.flatMap dropped = buffer.spent.dropped := by
  rw [spent_of_transfer taken]
  unfold lent
  rw [spent_of_transfer taken]
  cases owned : spent.ownership with
  | borrowed => simp
  | transferable => simp [dropped_of_transferable taken owned]

end NativeBuffer

section Answers

variable {σ α : Type} {world middle after : World σ Mark}

/-! ## Hearing a report -/

/-- The innermost call is a report that has not been served yet. -/
structure World.Hears (world : World σ Mark) (handle : Handle) (event : NativeEvent) : Prop extends
    world.Orderly where
  reports : world.Reports handle event

variable [Custodian σ] {may : Latitude σ} {handle : Handle} {event : NativeEvent}
  {due : List Hook → Except Panic (Except BridgeError Unit) → Prop}

namespace World.Hears

/-- A report is still to be served after what neither calls back nor runs a
hook. -/
theorem along {own : List (Moment Mark)} {charge : Counter → Nat}
    (hears : world.Hears handle event) (recounts : world.Recounts may own charge after)
    (silent : own.filter Moment.isCallback = []) (clean : own.filterMap Moment.hook? = []) :
    after.Hears handle event :=
  ⟨recounts.trail.path.orderly hears.toOrderly,
    hears.reports.along recounts.toAccounts silent clean⟩

theorem still (hears : world.Hears handle event) (still : world.Still after) :
    after.Hears handle event :=
  have recounts : world.Recounts (fun _ _ => True) [] 0 after := .of_quiet still
  hears.along recounts rfl rfl

omit [Custodian σ] in
theorem admits {peer : Peer} {target : TargetId} {next : Lifecycle}
    (hears : world.Hears peer.handle event) (stands : world.peer? peer.handle = some peer)
    (accepts : (world.life peer.entry).Accepts event.told target next)
    (entered : next.receives = (world.life peer.entry).receives ++ event.entered) :
    world.Admits peer event target next :=
  ⟨hears.toOrderly, stands, hears.reports, accepts, entered⟩

end World.Hears

/-! ## Rules -/

/-- A report has been served. That an open request has been told is seen in the
lifecycle when the report ends. -/
inductive World.Concludes (may : Latitude σ) (before : World σ Mark) (handle : Handle)
    (event : NativeEvent) (own : List (Moment Mark)) :
    Except Panic (Except BridgeError Unit) → World σ Mark → Prop where
  | served {outcome : Except Panic (Except BridgeError Unit)} {after : World σ Mark}
      (serves : before.Serves may handle event own outcome after)
      (unopened : event.kind = .openRequest → outcome ≠ .ok (.ok ())) :
      Concludes may before handle event own outcome after
  | opened {after : World σ Mark} {peer : Peer} {target : TargetId} {address : Address}
      {options : Bytes} {attached : Option Bool} (opening : event.kind = .openRequest)
      (serves : before.Serves may handle event own (.ok (.ok ())) after)
      (genuine : after.Genuine peer) (begun : .callback .openRequest ∈ after.deeds peer.entry)
      (told : .callback peer target (.openRequest address options) attached ∈ own) :
      Concludes may before handle event own (.ok (.ok ()))
        (after.setLife peer.entry (after.life peer.entry).finishOpen.2)

/-- What has been run serves the report, and the hooks that the report has run
by itself are such as `due` has it. -/
def World.Served (may : Latitude σ) (before : World σ Mark) (handle : Handle) (event : NativeEvent)
    (due : List Hook → Except Panic (Except BridgeError Unit) → Prop)
    (run : Except Panic (Except BridgeError Unit) × World σ Mark) : Prop :=
  ∃ own, before.Concludes may handle event own run.1 run.2 ∧ due (own.filterMap Moment.hook?) run.1

/-- What has been run serves the report, and frees what is due. -/
abbrev World.Answered (may : Latitude σ) (before : World σ Mark) (handle : Handle)
    (event : NativeEvent) (run : Except Panic (Except BridgeError Unit) × World σ Mark) : Prop :=
  before.Served may handle event (event.Due handle) run

/-- Nothing is due of a report that frees nothing. -/
theorem NativeEvent.due_of_bare (event : NativeEvent) (handle : Handle)
    (bare : ∀ reply, event.frees handle reply = none) (hooks : List Hook)
    (outcome : Except Panic (Except BridgeError Unit)) :
    event.Due handle hooks outcome := by
  intro owed freed
  cases (bare _).symm.trans freed

namespace World.Concludes

variable {own later : List (Moment Mark)} {outcome : Except Panic (Except BridgeError Unit)}

theorem accounts (concludes : world.Concludes may handle event own outcome after) :
    world.Accounts own (charged outcome) after := by
  cases concludes with
  | served serves => exact serves.toAccounts
  | opened _ serves =>
      have accounts := serves.toAccounts
      exact ⟨accounts.frames, accounts.ended, accounts.balance⟩

theorem path (concludes : world.Concludes may handle event own outcome after) :
    Path world after := by
  cases concludes with
  | served serves => exact serves.trail.path
  | opened _ serves genuine begun => exact serves.trail.path.tail (.opened genuine begun (.refl _))

theorem rejected (concludes : world.Concludes may handle event own outcome after)
    {error : BridgeError} (rejecting : outcome = .ok (.error error)) :
    own.filter Moment.isCallback = [] := by
  cases concludes with
  | served serves => exact serves.rejected error rejecting
  | opened => cases rejecting

theorem told (concludes : world.Concludes may handle event own outcome after)
    (sound : world.Sound) (delivered : ∀ error, outcome ≠ .ok (.error error)) :
    world.Told handle event own after ∨
      event.kind = .openRequest ∧ ∃ panic, outcome = .error panic := by
  cases concludes with
  | served serves => exact serves.told delivered
  | opened _ serves genuine begun =>
      refine (serves.told delivered).imp_left ?_
      rintro ⟨peer, target, attached, told, reaches⟩
      exact ⟨peer, target, attached, told,
        reaches.along (.single (.opened genuine begun (.refl _))) (serves.trail.sound sound)⟩

theorem after_still (still : world.Still middle)
    (concludes : middle.Concludes may handle event own outcome after) :
    world.Concludes may handle event own outcome after := by
  cases concludes with
  | served serves unopened => exact .served (serves.after_still still) unopened
  | opened opening serves genuine begun told =>
      exact .opened opening (serves.after_still still) genuine begun told

/-- What is quiet and does not depend on any lifecycle comes after. -/
theorem then_quiet (concludes : world.Concludes may handle event own outcome middle)
    (sound : world.Sound) {hooks : List Hook} (quiet : middle.Quiet hooks 0 after)
    (goes : ∀ {before later : World σ Mark}, before.trace = middle.trace →
      before.Quiet hooks 0 later → before.Recounts may (hooks.map .hookRan) 0 later) :
    world.Concludes may handle event (own ++ hooks.map .hookRan) outcome after := by
  obtain ⟨_, silent⟩ := Moment.hooks_hookRan hooks
  cases concludes with
  | served serves unopened => exact .served (serves.trans sound (goes rfl quiet) silent) unopened
  | opened opening serves genuine begun told =>
      obtain ⟨beneath, under, rfl⟩ := quiet.beneath
      rw [← under.life]
      refine .opened opening (serves.trans sound (goes rfl under) silent)
        (under.toPlain.genuine genuine) ?_ (List.mem_append_left _ told)
      rw [under.deeds]
      exact begun

theorem then_still (concludes : world.Concludes may handle event own outcome middle)
    (sound : world.Sound) (still : middle.Still after) :
    world.Concludes may handle event own outcome after := by
  have both := concludes.then_quiet sound still fun _ quiet => .of_quiet quiet
  rwa [List.map_nil, List.append_nil] at both

end World.Concludes

namespace World.Served

open References Registration Custody

theorem of_concludes {body : Call σ Mark Unit}
    {outcome : Except Panic (Except BridgeError Unit)} {own : List (Moment Mark)}
    (ran : body middle = (outcome, after))
    (concludes : world.Concludes may handle event own outcome after)
    (fits : due (own.filterMap Moment.hook?) outcome) :
    world.Served may handle event due (body middle) := by
  rw [ran]
  exact ⟨own, concludes, fits⟩

/-- A report that is no open request. -/
theorem of_run {body : Call σ Mark Unit} {outcome : Except Panic (Except BridgeError Unit)}
    {own : List (Moment Mark)} (ran : body middle = (outcome, after))
    (serves : world.Serves may handle event own outcome after)
    (fits : due (own.filterMap Moment.hook?) outcome) (other : event.kind ≠ .openRequest) :
    world.Served may handle event due (body middle) :=
  of_concludes ran (.served serves fun opening => (other opening).elim) fits

/-- A report that has not been answered. -/
theorem of_unanswered {body : Call σ Mark Unit} {outcome : Except Panic (Except BridgeError Unit)}
    {own : List (Moment Mark)} (ran : body middle = (outcome, after))
    (serves : world.Serves may handle event own outcome after)
    (fits : due (own.filterMap Moment.hook?) outcome) (unanswered : outcome ≠ .ok (.ok ())) :
    world.Served may handle event due (body middle) :=
  of_concludes ran (.served serves fun _ => unanswered) fits

theorem after_still {run : Except Panic (Except BridgeError Unit) × World σ Mark}
    (still : world.Still middle) (served : middle.Served may handle event due run) :
    world.Served may handle event due run := by
  obtain ⟨own, concludes, fits⟩ := served
  exact ⟨own, concludes.after_still still, fits⟩

theorem of_refuses {body : Call σ Mark Unit} {error : BridgeError} {charge : Counter → Nat}
    (refuses : Refuses body error charge world) (charged : error.charged = charge)
    (fits : due [] (.ok (.error error))) : world.Served may handle event due (body world) := by
  obtain ⟨after, ran, quiet⟩ := refuses
  exact .of_unanswered ran (.of_rejected (.of_quiet quiet) rfl charged) fits nofun

theorem looking {next : World σ Mark → Call σ Mark Unit}
    (rest : world.Served may handle event due (next middle middle)) :
    world.Served may handle event due
      (((get : Call σ Mark (World σ Mark)) >>= next) middle) :=
  rest

/-- Still things in the middle of what serves as a whole. -/
theorem still {first : BridgeM σ Mark α} {next : α → Call σ Mark Unit}
    (one : Quietly first [] 0 middle)
    (two : ∀ result after, middle.Still after →
      world.Served may handle event due (next result after)) :
    world.Served may handle event due ((effect first >>= next) middle) := by
  obtain ⟨result, after, ran, still⟩ := one
  rw [effectBind_of_ok ran]
  exact two result after still

/-- A step that is refused rejects the report; one that is taken goes on in the
next lifecycle. -/
theorem checked {peer : Peer} {step : Lifecycle → Lifecycle.Step α} {rest : α → Call σ Mark Unit}
    (noLapse : ∀ {refusal}, step (world.life peer.entry) = .error refusal →
      refusal.isLapse = false)
    (fits : ∀ {refusal : Refusal}, due [] (.ok (.error (refusal.toError peer.handle))))
    (taken : ∀ result next, step (world.life peer.entry) = .ok (result, next) →
      world.Served may handle event due (rest result (world.setLife peer.entry next))) :
    world.Served may handle event due ((checked .own peer step >>= rest) world) := by
  cases stepped : step (world.life peer.entry) with
  | ok outcome =>
      rw [callBind_of_ok (checked_of_ok stepped)]
      exact taken outcome.1 outcome.2 stepped
  | error refusal =>
      have refuses : Refuses (References.checked .own peer step >>= rest)
          (refusal.toError peer.handle) (refusal.toError peer.handle).reported world := by
        obtain ⟨after, ran, quiet⟩ : Refuses (References.checked .own peer step) _ _ world :=
          checked_refuses stepped (noLapse stepped)
        exact ⟨after, callBind_of_rejected ran, quiet⟩
      refine of_refuses refuses (BridgeError.charged_of_reported ?_) fits
      cases refusal <;> rfl

/-- A registration is held while its report is served. -/
theorem holding {entry : EntryId} {body : Call σ Mark Unit} (sound : world.Sound)
    (served : (world.engage entry).Served may handle event due (body (world.engage entry))) :
    world.Served may handle event due (Call.holding entry body world) := by
  have engaging : world.Still (world.engage entry) := .engage world entry
  obtain ⟨own, concludes, fits⟩ := served.after_still engaging
  obtain ⟨after, ran, still⟩ := holding_still (rfl : body (world.engage entry) = (_, _))
    (concludes.path.sound sound)
  have held : Call.holding entry body world = ((body (world.engage entry)).1, after) := ran
  exact .of_concludes held (concludes.then_still sound still) fits

/-- A buffer is dropped after what serves the report and frees nothing. -/
theorem dropping {buffer : NativeBuffer Hook} {body : Call σ Mark Unit}
    (hears : world.Hears handle event) (within : buffer.dropped.Sublist event.hooks)
    (served : world.Served may handle event (fun hooks _ => hooks = []) (body middle))
    (unheard : event.kind = .received → ∃ error, (body middle).1 = .ok (.error error))
    (fits : due buffer.dropped (body middle).1) :
    world.Served may handle event due (Delivery.thenDropping buffer body middle) := by
  obtain ⟨own, concludes, clean⟩ := served
  have silent (received : event.kind = .received) : own.filter Moment.isCallback = [] := by
    obtain ⟨error, rejected⟩ := unheard received
    exact concludes.rejected rejected
  obtain ⟨_, after, drop, loosing⟩ : Quietly (dropBuffer buffer) buffer.dropped 0
    (body middle).2 := .dropBuffer buffer
  have drops := hears.reports.drops concludes.accounts clean silent within
  have ran : Delivery.thenDropping buffer body middle = ((body middle).1, after) :=
    ensuring_of_ok (rfl : body.run middle = (_, _)) drop
  obtain ⟨hooks, _⟩ := Moment.hooks_hookRan buffer.dropped
  have dropped := concludes.then_quiet hears.sound loosing fun trace quiet =>
    .of_loosed (drops.of_trace trace) quiet
  refine .of_concludes ran dropped ?_
  rwa [List.filterMap_append, clean, List.nil_append, hooks]

end World.Served

/-! ## Registrations -/

namespace Registration

open References

theorem dropUnknown_refuses (handle : Handle) (kind : EventKind) :
    Refuses (dropUnknown handle kind : Call σ Mark α) (.unknownHandle handle)
      (Counter.once .dropped) world := by
  obtain ⟨_, after, ran, quiet⟩ : Quietly
      (do count .own Metrics.countDropped
          note (.unknownHandle handle kind)) [] (Counter.once .dropped) world := .dropEvent _ rfl
  exact ⟨after, effectBind_of_ok ran, quiet⟩

theorem lookup_of_unknown (unknown : world.peer? handle = none) (kind : EventKind) :
    Refuses (lookup handle kind) (.unknownHandle handle) (Counter.once .dropped) world := by
  have began : lookup handle kind world = _ := callBind_of_ok rfl
  rw [unknown] at began
  obtain ⟨after, ran, quiet⟩ : Refuses (dropUnknown handle kind : Call σ Mark Peer) _ _ world :=
    dropUnknown_refuses handle kind
  exact ⟨after, began.trans ran, quiet⟩

omit [Custodian σ] in
theorem handle_of_peer? {peer : Peer} (known : world.peer? handle = some peer) :
    peer.handle = handle := by
  obtain ⟨_, _, rfl⟩ := Option.map_eq_some_iff.mp known
  rfl

/-- What a registration yields: a new connection that the handle stands for. -/
structure Registers (may : Latitude σ) (before : World σ Mark) (own : List (Moment Mark))
    (peer : Peer) (after : World σ Mark) : Prop extends before.Recounts may own 0 after where
  stands : after.peer? peer.handle = some peer
  new : before.entry? peer.entry = none

/-- A free handle is bound to a new entry that holds the target; any other one
is refused. -/
theorem register_recounts (may : Latitude σ) (sound : world.Sound) (handle : Handle)
    (target : TargetId) :
    (∃ peer after, register handle target world = (.ok (.ok peer), after) ∧
      peer.handle = handle ∧ Registers may world [] peer after) ∨
    Refuses (register handle target) (.duplicateHandle handle) (Counter.once .violations)
      world := by
  cases inserted : world.own.registry.insert? handle ⟨world.entries.size⟩ with
  | none =>
      have unbound : bind? handle target world = (.ok none, world) := by
        unfold bind?
        simp only [inserted]
      obtain ⟨_, forgotten, forget, one⟩ : Quietly (Custody.letGoOfTarget target) [] 0 world :=
        Custody.letGoOfTarget_quietly sound target
      obtain ⟨after, rejected, two⟩ : Refuses (reject .own (.duplicateHandle handle) :
        Call σ Mark Peer) _ _ forgotten := reject_refuses rfl
      refine .inr ⟨after, ?_, one.after_still two⟩
      exact (effectBind_of_ok unbound).trans ((effectBind_of_ok forget).trans rejected)
  | some registry =>
      let enrolled := world.enrolled registry handle target
      have still : enrolled.Still (enrolled.push (.noted (.registered handle))) :=
        .note enrolled (.registered handle) rfl
      refine .inl ⟨_, _, register_of_inserted inserted target, rfl, ?_, ?_,
        World.entry?_new world⟩
      · refine .of_grain (.registered inserted still) still.acts fun counter => ?_
        rw [still.counted]
        cases counter <;> rfl
      · rw [still.peer?]
        unfold World.peer?
        exact congrArg (Option.map _) ((Registry.lookup?_of_insert? inserted handle).trans
          (if_pos rfl))

end Registration

end Answers

end TransportBridge
