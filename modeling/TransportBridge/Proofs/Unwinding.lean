import TransportBridge.Proofs.RunPaths

/-!
Contract: the way of a panic through the entry points of the native side.

A report calls back in one place at the most. Whatever is done after that, be it
a guard that goes, a reference that is given up or a hold that is let go of, is
done for a panic as well, and leaves it alone.

Owns: computations that call back once, their laws for sequencing and cleaning
up, and that the panic of a callback is the reply to the report.

Does not own: what the code around the report makes of that reply.
-/

namespace TransportBridge

variable {σ α β : Type}

/-- The callbacks of all targets. -/
abbrev Callbacks (σ : Type) := Peer → TargetId → SocketEvent → BridgeM σ Mark Unit

/-- The same host with other callbacks. -/
def Host.calling (host : Host σ Mark) (callbacks : Callbacks σ) : Host σ Mark :=
  { host with callback := callbacks }

/-- The world in which a callback begins. -/
def World.calledBack (ready : World σ Mark) (peer : Peer) (target : TargetId)
    (event : SocketEvent) : World σ Mark :=
  ready.push (.callback peer target event ready.attached?)

/-- A computation calls back at most once, in a place that does not depend on
what the callbacks do; one that panics there is how the computation ends. -/
inductive CallsBack (body : Callbacks σ → BridgeM σ Mark α) (world : World σ Mark) : Prop where
  | nowhere (ended : Except Panic α × World σ Mark)
      (ends : ∀ callbacks, body callbacks world = ended)
  | once (peer : Peer) (target : TargetId) (event : SocketEvent) (ready : World σ Mark)
      (rest : Except Panic Unit × World σ Mark → Except Panic α × World σ Mark)
      (ends : ∀ callbacks, body callbacks world =
        rest (callbacks peer target event (ready.calledBack peer target event)))
      (unwinds : ∀ panic after, (rest (.error panic, after)).1 = .error panic)

namespace CallsBack

variable {world middle : World σ Mark}

/-- What a callback has no say in. -/
theorem constant (body : BridgeM σ Mark α) (world : World σ Mark) :
    CallsBack (fun _ => body) world :=
  .nowhere (body world) fun _ => rfl

/-- Something around it that leaves panics alone. -/
theorem within {body : Callbacks σ → BridgeM σ Mark α} {outer : Callbacks σ → BridgeM σ Mark β}
    (calls : CallsBack body middle)
    (frame : Except Panic α × World σ Mark → Except Panic β × World σ Mark)
    (framed : ∀ callbacks, outer callbacks world = frame (body callbacks middle))
    (unwinds : ∀ panic after, (frame (.error panic, after)).1 = .error panic) :
    CallsBack outer world := by
  cases calls with
  | nowhere ended ends =>
      refine .nowhere (frame ended) fun callbacks => ?_
      rw [framed, ends]
  | once peer target event ready rest ends inner =>
      refine .once peer target event ready (fun ended => frame (rest ended)) ?_ ?_
      · intro callbacks
        rw [framed, ends]
      · intro panic after
        -- What the frame is given is the panic that `rest` has let through.
        have ended : rest (.error panic, after) = (.error panic, (rest (.error panic, after)).2) :=
          Prod.ext (inner panic after) rfl
        rw [ended]
        exact unwinds panic _

/-- What has been done before it calls back. -/
theorem of_run {body outer : Callbacks σ → BridgeM σ Mark α} (calls : CallsBack body middle)
    (ran : ∀ callbacks, outer callbacks world = body callbacks middle) : CallsBack outer world :=
  calls.within id ran fun _ _ => rfl

/-! ## Sequencing -/

theorem andThen {first : Callbacks σ → BridgeM σ Mark α} (calls : CallsBack first world)
    (next : α → BridgeM σ Mark β) : CallsBack (fun callbacks => first callbacks >>= next) world :=
  calls.within (fun ended => ((fun _ => ended : BridgeM σ Mark α) >>= next) world)
    (fun _ => rfl) fun _ _ => rfl

theorem after (first : BridgeM σ Mark α) {next : Callbacks σ → α → BridgeM σ Mark β}
    (rest : ∀ result middle, CallsBack (fun callbacks => next callbacks result) middle)
    (world : World σ Mark) : CallsBack (fun callbacks => first >>= next callbacks) world := by
  cases ran : first world with
  | mk outcome middle =>
      cases outcome with
      | ok result => exact (rest result middle).of_run fun callbacks => bind_of_ok ran
      | error panic => exact .nowhere (.error panic, middle) fun callbacks => bind_of_error ran

theorem callThen {first : Callbacks σ → Call σ Mark α}
    (calls : CallsBack (fun callbacks => (first callbacks).run) world)
    (next : α → Call σ Mark β) :
    CallsBack (fun callbacks => (first callbacks >>= next).run) world :=
  calls.andThen (ExceptT.bindCont next)

theorem callAfter (first : Call σ Mark α) {next : Callbacks σ → α → Call σ Mark β}
    (rest : ∀ result middle, CallsBack (fun callbacks => (next callbacks result).run) middle)
    (world : World σ Mark) :
    CallsBack (fun callbacks => (first >>= next callbacks).run) world := by
  apply after first.run
  intro answer middle
  cases answer with
  | ok result => exact rest result middle
  | error error => exact .constant _ middle

theorem effectThen {first : Callbacks σ → BridgeM σ Mark α} (calls : CallsBack first world)
    (next : α → Call σ Mark β) :
    CallsBack (fun callbacks => (effect (first callbacks) >>= next).run) world :=
  callThen (calls.andThen _) next

theorem effectAfter (first : BridgeM σ Mark α) {next : Callbacks σ → α → Call σ Mark β}
    (rest : ∀ result middle, CallsBack (fun callbacks => (next callbacks result).run) middle)
    (world : World σ Mark) :
    CallsBack (fun callbacks => (effect first >>= next callbacks).run) world :=
  callAfter (effect first) rest world

theorem looking {next : Callbacks σ → World σ Mark → Call σ Mark α}
    (calls : CallsBack (fun callbacks => (next callbacks world).run) world) :
    CallsBack (fun callbacks =>
      ((get : Call σ Mark (World σ Mark)) >>= next callbacks).run) world :=
  calls.of_run fun _ => rfl

/-! ## Cleaning up -/

theorem ensuring {body : Callbacks σ → BridgeM σ Mark α} (calls : CallsBack body world)
    (cleanup : BridgeM σ Mark Unit) :
    CallsBack (fun callbacks => ensuring (body callbacks) cleanup) world :=
  calls.within (fun ended => TransportBridge.ensuring (fun _ => ended) cleanup world)
    (fun _ => rfl) fun _ _ => rfl

theorem onPanic {body : Callbacks σ → BridgeM σ Mark α} (calls : CallsBack body world)
    (cleanup : BridgeM σ Mark Unit) :
    CallsBack (fun callbacks => onPanic (body callbacks) cleanup) world :=
  calls.within (fun ended => TransportBridge.onPanic (fun _ => ended) cleanup world)
    (fun _ => rfl) fun _ _ => rfl

theorem withAttachedContext {thunk : Callbacks σ → RuntimeContext → BridgeM σ Mark α}
    (calls : ∀ context ready, CallsBack (fun callbacks => thunk callbacks context) ready)
    (operation : String) (world : World σ Mark) :
    CallsBack (fun callbacks => Attachment.withAttachedContext operation (thunk callbacks))
      world := by
  apply after
  intro answer middle
  cases answer with
  | error error => exact .constant _ middle
  | ok held =>
      apply after
      intro fault ready
      cases fault with
      | true => exact .constant _ ready
      | false => exact ((calls _ ready).ensuring _).andThen _

/-! ## Reports -/

variable [Custodian σ] {host : Host σ Mark}

theorem holding {body : Callbacks σ → Call σ Mark α} (entry : EntryId)
    (calls : ∀ held, CallsBack (fun callbacks => (body callbacks).run) held)
    (world : World σ Mark) :
    CallsBack (fun callbacks => (Call.holding entry (body callbacks)).run) world :=
  ensuring (after _ (fun _ held => calls held) world) _

theorem deliver (peer : Peer) (target : TargetId) (event : SocketEvent) (world : World σ Mark) :
    CallsBack (fun callbacks => (Delivery.deliver (host.calling callbacks) peer target event).run)
      world := by
  have context (lent : World σ Mark) : CallsBack (fun callbacks =>
      Attachment.withAttachedContext event.name fun _ =>
        Delivery.invoke (host.calling callbacks) peer target event) lent := by
    apply withAttachedContext
    intro _ ready
    exact .once peer target event ready id (fun _ => rfl) fun _ _ => rfl
  apply looking
  apply effectAfter
  intro _ noted
  apply effectThen
  exact ensuring (after _ (fun _ lent => context lent) noted) _

theorem deliverOr (peer : Peer) (target : TargetId) (event : SocketEvent)
    (undo : BridgeM σ Mark Unit) (world : World σ Mark) :
    CallsBack (fun callbacks =>
      (Delivery.deliverOr (host.calling callbacks) peer target event undo).run) world :=
  effectThen (deliver peer target event world) _

theorem onOpen (handle : Handle) (address : Address) (options : NativeBuffer Hook)
    (world : World σ Mark) :
    CallsBack (fun callbacks =>
      (Delivery.onOpen (host.calling callbacks) handle address options).run) world := by
  unfold Delivery.onOpen
  cases options.transfer with
  | error violation => exact .constant _ world
  | ok taken =>
      obtain ⟨bytes, spent⟩ := taken
      -- The peer is bound, or the factory has made its target; no callback has a part in that.
      have opening (peer : Peer) (known : World σ Mark) : CallsBack (fun callbacks =>
          (Call.holding peer.entry (Delivery.opening (host.calling callbacks) handle address bytes
            peer)).run) known := by
        apply holding
        intro held
        apply callAfter
        intro target accepted
        exact callThen (deliverOr peer target _ _ accepted) _
      apply ensuring
      apply looking
      cases world.peer? handle with
      | some peer => exact opening peer world
      | none =>
          exact callAfter (Registration.adoptFromFactory host handle address bytes) opening world

theorem dispatch (handle : Handle) (event : NativeEvent) (world : World σ Mark) :
    CallsBack (fun callbacks => (Delivery.dispatch (host.calling callbacks) handle event).run)
      world := by
  cases event with
  | openRequest address options => exact onOpen handle address options world
  | writeCompleted byteCount =>
      apply callAfter
      intro peer found
      apply holding
      intro held
      exact callAfter _ (fun target accepted => deliver peer target _ accepted) held
  | received data =>
      apply effectAfter
      intro answer found
      cases answer with
      | error error => exact .constant _ found
      | ok peer =>
          apply holding
          intro held
          cases data.transfer with
          | error violation => exact .constant _ held
          | ok taken =>
              exact callAfter _ (fun target accepted => deliverOr peer target _ _ accepted) held
  | closeRequest status message =>
      apply callAfter
      intro peer found
      apply holding
      intro held
      apply callAfter
      intro (target, before) accepted
      exact effectAfter _ (fun _ noted => deliverOr peer target _ _ noted) accepted
  | closed domain code message =>
      apply callAfter
      intro peer found
      apply holding
      intro held
      apply effectAfter
      intro _ noted
      apply callAfter
      intro (target, before) accepted
      exact effectThen (onPanic (deliver peer target _ accepted) _) _

end CallsBack

/-! ## Replies -/

variable [Custodian σ]

/-- No callback makes a difference to the report, or just one does, in one place,
and if it panics there, that panic is the reply. -/
def Behaviour.Unwinds (behaviour : Behaviour σ) (depth : Nat) (handle : Handle)
    (event : NativeEvent) (world : World σ Mark) : Prop :=
  let report := BridgeCall.native handle event
  let host := behaviour.host (BridgeCall.make behaviour depth)
  let called := world.push (.marked (.called report))
  (∀ callbacks, report.perform (host.calling callbacks) called = report.perform host called) ∨
  ∃ (peer : Peer) (target : TargetId) (told : SocketEvent) (ready : World σ Mark),
    let begun := ready.calledBack peer target told
    (∀ callbacks : Callbacks σ,
      callbacks peer target told begun = host.callback peer target told begun →
        report.perform (host.calling callbacks) called = report.perform host called) ∧
    ∀ panic, (host.callback peer target told begun).1 = .error panic →
      (report.make behaviour (depth + 1) world).1 = .ok (.panicked panic)

theorem Behaviour.unwinds (behaviour : Behaviour σ) (depth : Nat) (handle : Handle)
    (event : NativeEvent) (world : World σ Mark) : behaviour.Unwinds depth handle event world := by
  unfold Unwinds
  intro report host called
  have calls : CallsBack (fun callbacks => report.perform (host.calling callbacks)) called :=
    (CallsBack.dispatch handle event called).andThen _
  cases calls with
  | nowhere ended ends => exact .inl fun callbacks => (ends callbacks).trans (ends host.callback).symm
  | once peer target told ready rest ends unwinds =>
      have own : report.perform host called = _ := ends host.callback
      refine .inr ⟨peer, target, told, ready, fun callbacks same => ?_, fun panic panicked => ?_⟩
      · rw [own, ends, same]
      · have ended : host.callback peer target told (ready.calledBack peer target told) =
            (.error panic, _) := Prod.ext panicked rfl
        rw [BridgeCall.make_runs]
        show Except.ok (Reply.ofOutcome (report.perform host called).1) = _
        rw [own, ended, unwinds]
        rfl

end TransportBridge
