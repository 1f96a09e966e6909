import TransportBridge.Proofs.Grains
import TransportBridge.Proofs.Targets

/-!
Contract: the accounts of a computation, from its beginning to its end.

What a computation does belongs to the innermost call, as the calls within it
keep their own records. What it adds to the counters is what there is to count
of the calls that have ended within it, and its own charge, which is settled
when the innermost call ends.

Owns: accounts, their laws for sequencing, and that a call settles its charge;
computations that go along a trail and keep accounts; and what the native side
is owed when a report has been answered.
-/

namespace TransportBridge

variable {σ α : Type} {world middle after : World σ Mark}

/-! ## Accounts -/

/-- The innermost call has done `own` meanwhile, and calls have ended; `charge`
is what has been counted beyond those. -/
structure World.Accounts (before : World σ Mark) (own : List (Moment Mark))
    (charge : Counter → Nat) (after : World σ Mark) : Prop where
  frames : after.reading.frames = Frame.extend own before.reading.frames
  ended : before.reading.ended <+: after.reading.ended
  balance : ∀ counter, after.metric counter + before.tally counter =
    before.metric counter + after.tally counter + charge counter

namespace World.Accounts

variable {own more : List (Moment Mark)} {charge extra : Counter → Nat}

theorem of_acts (acts : after.acts = world.acts ++ own)
    (all : ∀ moment ∈ own, moment.isOwn = true)
    (counted : ∀ counter, after.metric counter = world.metric counter + charge counter) :
    world.Accounts own charge after := by
  obtain ⟨frames, ended⟩ := Reading.frames_foldl world.reading all
  rw [← reading_of_acts acts] at frames ended
  refine ⟨frames, ended ▸ List.prefix_rfl, fun counter => ?_⟩
  have tally : after.tally counter = world.tally counter := by
    unfold tally
    rw [ended]
  rw [tally, counted]
  omega

theorem refl (world : World σ Mark) : world.Accounts [] 0 world :=
  of_acts (List.append_nil _).symm (by simp) fun _ => rfl

theorem trans (one : world.Accounts own charge middle) (two : middle.Accounts more extra after) :
    world.Accounts (own ++ more) (charge + extra) after where
  frames := by rw [two.frames, one.frames, Frame.extend_append]
  ended := one.ended.trans two.ended
  balance counter := by
    have first := one.balance counter
    have second := two.balance counter
    rw [Pi.add_apply]
    omega

/-- A call that ends settles its charge. -/
theorem settled {call : BridgeCall} {reply : Reply} {done : World σ Mark}
    (accounts : (world.push (.marked (.called call))).Accounts own charge done)
    (charged : charge = Ended.charge { call, own, reply }) :
    world.Accounts [] 0 (done.push (.marked (.replied call reply))) := by
  have began := world.reading_called call
  have frames : done.reading.frames = { call, own } :: world.reading.frames := by
    rw [accounts.frames, began]
    rfl
  have closed := reading_replied frames call reply
  refine ⟨?_, ?_, fun counter => ?_⟩
  · rw [closed, Frame.extend_nil]
  · rw [closed]
    have before := accounts.ended
    rw [began] at before
    exact before.trans (List.prefix_append _ _)
  · have balance := accounts.balance counter
    have before : (world.push (.marked (.called call))).tally counter = world.tally counter := by
      unfold tally
      rw [began]
    have later : (done.push (.marked (.replied call reply))).tally counter =
        done.tally counter + charge counter := by
      unfold tally
      rw [closed, List.countP_append, charged]
      unfold Ended.charge
      rw [List.countP_singleton]
    have same : (done.push (.marked (.replied call reply))).metric counter = done.metric counter :=
      rfl
    have begun : (world.push (.marked (.called call))).metric counter = world.metric counter := rfl
    rw [before, begun] at balance
    rw [later, same, Pi.zero_apply]
    omega

end World.Accounts

/-! ## Trails with accounts -/

variable [Custodian σ] {may : Latitude σ}

/-- The world goes along a trail, and the accounts are kept. -/
structure World.Recounts (may : Latitude σ) (before : World σ Mark) (own : List (Moment Mark))
    (charge : Counter → Nat) (after : World σ Mark) : Prop extends
    before.Accounts own charge after where
  trail : Trail may before after

/-- What the bridge calls does nothing by the call that calls it, and settles
all charges of its own calls. -/
structure Host.Recounts (may : Latitude σ) (host : Host σ Mark) : Prop where
  evolves : host.Evolves
  callback {world : World σ Mark} (orderly : world.Orderly) (peer : Peer) (target : TargetId)
      (event : SocketEvent) : world.Recounts may [] 0 (host.callback peer target event world).2
  createHandle {world : World σ Mark} (orderly : world.Orderly) (address : Address)
      (framing : Framing) : world.Recounts may [] 0 (host.createHandle address framing world).2
  engine {world : World σ Mark} (orderly : world.Orderly) (handle : Handle) (call : EngineCall) :
      world.Recounts may [] 0 (host.engine handle call world).2
  createTarget {world : World σ Mark} (orderly : world.Orderly) (factory : FactoryId)
      (handle : Handle) (address : Address) (options : Bytes) :
      world.Recounts may [] 0 (host.createTarget factory handle address options world).2

namespace World.Recounts

variable {own more : List (Moment Mark)} {charge extra : Counter → Nat}

theorem refl (world : World σ Mark) : world.Recounts may [] 0 world :=
  ⟨.refl world, .refl⟩

theorem trans (one : world.Recounts may own charge middle)
    (two : middle.Recounts may more extra after) :
    world.Recounts may (own ++ more) (charge + extra) after :=
  ⟨one.toAccounts.trans two.toAccounts, one.trail.trans two.trail⟩

theorem charging {other : Counter → Nat} (recounts : world.Recounts may own charge after)
    (same : ∀ counter, charge counter = other counter) : world.Recounts may own other after :=
  funext same ▸ recounts

/-- What does nothing comes after. -/
theorem then_idle (one : world.Recounts may own charge middle)
    (two : middle.Recounts may [] 0 after) : world.Recounts may own charge after := by
  have both := one.trans two
  rwa [List.append_nil, add_zero] at both

/-- What does nothing comes before. -/
theorem after_idle (one : world.Recounts may [] 0 middle)
    (two : middle.Recounts may own charge after) : world.Recounts may own charge after := by
  have both := one.trans two
  rwa [List.nil_append, zero_add] at both

/-- What is counted, and nothing else, comes before. -/
theorem after_charge (one : world.Recounts may [] charge middle)
    (two : middle.Recounts may own 0 after) : world.Recounts may own charge after := by
  have both := one.trans two
  rwa [List.nil_append, add_zero] at both

theorem then_charge (one : world.Recounts may own 0 middle)
    (two : middle.Recounts may [] charge after) : world.Recounts may own charge after := by
  have both := one.trans two
  rwa [List.append_nil, zero_add] at both

theorem of_grain (grain : Grain may world after) (acts : after.acts = world.acts ++ own)
    (counted : ∀ counter, after.metric counter = world.metric counter + charge counter)
    (all : ∀ moment ∈ own, moment.isOwn = true := by simp [Moment.isOwn]) :
    world.Recounts may own charge after :=
  ⟨.of_acts acts all counted, .single grain⟩

theorem of_quiet (quiet : world.Quiet [] charge after) : world.Recounts may [] charge after :=
  of_grain (.quiet quiet) quiet.acts quiet.counted

theorem then_still (one : world.Recounts may own charge middle) (still : middle.Still after) :
    world.Recounts may own charge after :=
  one.then_idle (of_quiet still)

/-- A report drops its buffer. -/
theorem of_loosed {hooks : List Hook} (drops : world.Drops hooks)
    (quiet : world.Quiet hooks charge after) :
    world.Recounts may (hooks.map .hookRan) charge after :=
  of_grain (.loosed drops quiet) quiet.acts quiet.counted

/-- The host is asked for something that is no registration's affair. -/
theorem of_asked (world : World σ Mark) {moment : Moment Mark} (asking : moment.isAsking = true) :
    world.Recounts may [moment] 0 (world.push moment) := by
  have own : moment.isOwn = true ∧ moment.isNotice = false := by
    cases moment <;> first | exact ⟨rfl, rfl⟩ | cases asking
  refine of_grain (.asked asking) ?_ (fun _ => rfl) (by simpa using own.1)
  rw [acts_push, own.2]
  rfl

variable {peer : Peer} {next : Lifecycle}

/-- An event is accepted, and its callback does not begin. -/
theorem of_missed {event : SocketEvent} (genuine : world.Genuine peer)
    (misses : (world.life peer.entry).Misses event next)
    (quiet : (world.setLife peer.entry next).Quiet [] charge after)
    (dropped : world.drops peer.handle event.kind < after.drops peer.handle event.kind) :
    world.Recounts may [] charge after :=
  of_grain (.missed genuine misses quiet dropped) quiet.acts quiet.counted

end World.Recounts

/-! ## Answers -/

/-- The reply to a report of the native side. -/
def Reply.ofRun : Except Panic (Except BridgeError Unit) → Reply
  | .ok (.ok ()) => .done
  | .ok (.error error) => .rejected error
  | .error panic => .panicked panic

theorem Reply.ofRun_eq_done {outcome : Except Panic (Except BridgeError Unit)} :
    Reply.ofRun outcome = .done ↔ outcome = .ok (.ok ()) := by
  rcases outcome with panic | error | ⟨⟩ <;> simp [ofRun]

/-- What a report adds to the counters that is rejected for the error. -/
def BridgeError.charged (error : BridgeError) : Counter → Nat
  | .dispatched => 0
  | .dropped => if error.drops then 1 else 0
  | .violations => if error.isInvariantViolation then 1 else 0
  | .attachFailures => if error.isAttachment then 1 else 0

/-- What a report adds to the counters. -/
def charged : Except Panic (Except BridgeError Unit) → Counter → Nat
  | .ok (.ok ()) => Counter.once .dispatched
  | .ok (.error error) => error.charged
  | .error _ => 0

theorem charge_report (handle : Handle) (event : NativeEvent) (own : List (Moment Mark))
    (outcome : Except Panic (Except BridgeError Unit)) :
    Ended.charge { call := .native handle event, own, reply := .ofRun outcome } =
      charged outcome := by
  funext counter
  rcases outcome with panic | error | ⟨⟩
  · cases counter <;> rfl
  · cases counter <;>
      simp [charged, BridgeError.charged, Ended.charge, Ended.counts, Ended.gaveUp, Reply.ofRun,
        Reply.isFor, BridgeCall.isNative]
  · cases counter <;> rfl

theorem BridgeError.charged_unknownHandle (handle : Handle) :
    (BridgeError.unknownHandle handle).charged = Counter.once .dropped := by
  funext counter
  cases counter <;> rfl

theorem BridgeError.charged_nativeEngine (error : ErrorRecord) :
    (BridgeError.nativeEngine error).charged = Counter.once .dropped := by
  funext counter
  cases counter <;> rfl

theorem BridgeError.charged_runtimeAttachment (operation : String) (failure : AttachFailure) :
    (BridgeError.runtimeAttachment operation failure).charged =
      Counter.once .attachFailures + Counter.once .dropped := by
  funext counter
  cases counter <;> rfl

/-- An error that is reported and drops no event. -/
theorem BridgeError.charged_of_reported {error : BridgeError} (kept : error.drops = false) :
    error.charged = error.reported := by
  have unattached : error.isAttachment = false := by
    cases error <;> first | rfl | cases kept
  funext counter
  unfold charged reported
  cases violated : error.isInvariantViolation <;> cases counter <;>
    simp [kept, unattached, Counter.once]

/-- The callback is one of the registration that the handle stood for, or of one
that was made meanwhile for a handle that stood for nothing. -/
structure World.Reaches (before : World σ Mark) (handle : Handle) (peer : Peer)
    (target : TargetId) (after : World σ Mark) : Prop where
  named : peer.handle = handle
  stands : before.peer? handle = some peer ∨
    before.peer? handle = none ∧ before.entry? peer.entry = none
  found : ∃ entry, after.entry? peer.entry = some entry ∧ entry.handle = handle ∧
    entry.target = target

/-- A report has told its target, by one callback. -/
def World.Told (before : World σ Mark) (handle : Handle) (event : NativeEvent)
    (own : List (Moment Mark)) (after : World σ Mark) : Prop :=
  ∃ peer target attached,
    own.filter Moment.isCallback = [.callback peer target event.told attached] ∧
      before.Reaches handle peer target after

/-- A report is served: its target is told, or it is rejected and nobody is
told. Only the factory may panic before anybody is told. -/
structure World.Serves (may : Latitude σ) (before : World σ Mark) (handle : Handle)
    (event : NativeEvent) (own : List (Moment Mark))
    (outcome : Except Panic (Except BridgeError Unit)) (after : World σ Mark) : Prop extends
    before.Recounts may own (charged outcome) after where
  told : (∀ error, outcome ≠ .ok (.error error)) → before.Told handle event own after ∨
    event.kind = .openRequest ∧ ∃ panic, outcome = .error panic
  rejected : ∀ error, outcome = .ok (.error error) → own.filter Moment.isCallback = []

/-- The hooks that are run by a report with this outcome are those that it
frees. -/
def NativeEvent.Due (event : NativeEvent) (handle : Handle) (hooks : List Hook)
    (outcome : Except Panic (Except BridgeError Unit)) : Prop :=
  ∀ owed, event.frees handle (.ofRun outcome) = some owed → hooks = owed

/-- The record of a report that has been served is fair if the hooks are due. -/
theorem World.Serves.fair {handle : Handle} {event : NativeEvent} {own : List (Moment Mark)}
    {outcome : Except Panic (Except BridgeError Unit)}
    (serves : world.Serves may handle event own outcome after)
    (due : event.Due handle (own.filterMap Moment.hook?) outcome) :
    Ended.Fair { call := .native handle event, own, reply := .ofRun outcome } := by
  intro other reported same
  obtain ⟨rfl, rfl⟩ := BridgeCall.native.inj same
  refine ⟨fun unrejected => ?_, fun error rejected => ?_, due⟩
  · have delivered : ∀ error, outcome ≠ .ok (.error error) := by
      rintro error rfl
      exact unrejected error rfl
    rcases serves.told delivered with
      ⟨peer, target, attached, told, reaches⟩ | ⟨opening, panic, rfl⟩
    · exact .inl ⟨peer, target, attached, told, reaches.named⟩
    · exact .inr ⟨opening, panic, rfl⟩
  · rcases outcome with panic | refusal | ⟨⟩
    · cases rejected
    · exact serves.rejected refusal rfl
    · cases rejected

end TransportBridge
