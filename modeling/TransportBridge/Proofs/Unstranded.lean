import TransportBridge.Proofs.Attachments
import TransportBridge.Proofs.Attained
import TransportBridge.Proofs.StateOrder
import TransportBridge.Proofs.Teardown
import TransportBridge.Proofs.Unwinding

/-!
Contract: panics strand no registration.

A callback that panics leaves its report half done, in any of the worlds that
user code comes to see. The end of the connection is accepted there all the same,
and once its callback has begun, be it within how many others that panic in
their turn, nothing but the retains of the managed side keeps the registration.

Owns: that attachments are as before when a call has ended by a panic, what
becomes of a registration whose native reference is given up, and that the last
release disposes of it.

Does not own: the way of a panic through a report.
-/

namespace TransportBridge

variable {σ α : Type}

/-! ## Attachments -/

/-- User code that attaches and detaches nothing by itself, or makes up for it,
and stays on its thread. -/
def UserCode.LeavesAttachments : UserCode σ α → Prop
  | .finish _ | .unwind _ => True
  | .look next => ∀ world, (next world).LeavesAttachments
  | .rearrange change next =>
    (∀ surroundings : Surroundings σ, (change surroundings).thread = surroundings.thread ∧
      surroundings.runtime.Balances (change surroundings).runtime) ∧ next.LeavesAttachments
  | .call _ next => ∀ reply, (next reply).LeavesAttachments

structure Behaviour.LeavesAttachments (behaviour : Behaviour σ) : Prop where
  callback peer target event : (behaviour.callback peer target event).LeavesAttachments
  createHandle address framing : (behaviour.createHandle address framing).LeavesAttachments
  engine handle call : (behaviour.engine handle call).LeavesAttachments
  createTarget factory handle address options :
      (behaviour.createTarget factory handle address options).LeavesAttachments

theorem UserCode.LeavesAttachments.keepsStep {code : UserCode σ α}
    (leaves : code.LeavesAttachments) :
    code.KeepsStep (Scope.whole False) Ties.steady code := by
  induction code with
  | finish result => exact .finish result
  | unwind panic => exact .unwind panic
  | look next inductionHypothesis =>
      refine .look ?_
      rintro _ ⟨start, rfl⟩ world _ ⟨rfl, _⟩
      exact inductionHypothesis world (leaves world)
  | rearrange change next inductionHypothesis =>
      refine .rearrange ?_ (inductionHypothesis leaves.2)
      rintro _ ⟨start, rfl⟩ world _ ⟨rfl, inside⟩
      obtain ⟨thread, balances⟩ := leaves.1 world.surroundings
      have steady : world.Steady (world.amid (change world.surroundings)) :=
        ⟨thread, balances, [], (List.append_nil _).symm, fun _ member =>
          absurd member List.not_mem_nil⟩
      exact ⟨rfl, inside.trans steady⟩
  | call made next inductionHypothesis =>
      exact .call (Scope.permits_whole False made) fun reply =>
        inductionHypothesis reply (leaves reply)

theorem Behaviour.LeavesAttachments.keepsStep {behaviour : Behaviour σ}
    (leaves : behaviour.LeavesAttachments) :
    behaviour.KeepsStep (Scope.whole False) Ties.steady behaviour where
  callback _ _ _ _ := (leaves.callback _ _ _).keepsStep
  engine _ _ := (leaves.engine _ _).keepsStep
  createHandle _ _ _ := (leaves.createHandle _ _).keepsStep
  createTarget _ _ _ _ _ := (leaves.createTarget _ _ _ _).keepsStep

/-- However a call ends, the threads are attached as before. -/
theorem Behaviour.LeavesAttachments.make_steady [Custodian σ] {behaviour : Behaviour σ}
    (leaves : behaviour.LeavesAttachments) (depth : Nat) (call : BridgeCall)
    (world : World σ Mark) :
    world.Steady (call.make behaviour depth world).2 :=
  (inStep_steady_iff.mp (World.Steady.accord.make leaves.keepsStep depth
    (Scope.permits_whole False call))).2 world

/-! ## Without the native reference -/

namespace Lifecycle

variable {life next : Lifecycle} {deeds told : List Deed}

/-- The native side never takes a reference anew. -/
theorem nativeRef_of_turn (given : life.nativeRef = false) (held : life.Held)
    (turn : Turn life deeds next told) : next.nativeRef = false := by
  cases turn with
  | idle | unreleased => exact given
  | registered => cases given
  | called accepts => exact accepts.keeps.nativeRef.trans given
  | missed misses => exact (misses.keeps held).1.nativeRef.trans given
  | forwarded forwards => exact forwards.keeps.1.nativeRef.trans given
  | opened => rwa [finishOpen_frame]
  | settled taken =>
      obtain ⟨_, _, rfl⟩ := releaseNative_ok taken
      exact tryTeardown_nativeRef _
  | retained taken =>
      obtain ⟨_, rfl, _⟩ := retain_ok taken
      exact given
  | released taken =>
      obtain ⟨_, _, rfl⟩ := release_ok taken
      rwa [tryTeardown_nativeRef]

end Lifecycle

/-! ## What keeps a registration -/

section Paths

variable {world after : World σ Mark} {id : EntryId}

theorem Path.nativeRef (path : Path world after) (sound : world.Sound)
    (given : (world.life id).nativeRef = false) : (after.life id).nativeRef = false := by
  let gone (world : World σ Mark) : Prop := (world.life id).nativeRef = false
  have kept : gone after := path.invariant sound given fun sound gone stride =>
    Lifecycle.nativeRef_of_turn gone (sound.life_held id) (stride.turn id)
  exact kept

/-- What is disposed of stays so. -/
theorem Path.disposed (path : Path world after) (sound : world.Sound)
    (reflects : (world.life id).Reflects (world.deeds id))
    (disposed : (world.life id).state = .disposed) : (after.life id).state = .disposed := by
  let ended (world : World σ Mark) : Prop :=
    (world.life id).Reflects (world.deeds id) ∧ (world.life id).state = .disposed
  have kept : ended after := by
    refine path.invariant sound ⟨reflects, disposed⟩ ?_
    intro before after sound ⟨reflects, disposed⟩ stride
    have held := sound.life_held id
    have leads := (stride.turn id).leads held reflects
    rw [disposed] at leads
    exact ⟨reflects.turn held (stride.turn id), leads.disposed⟩
  exact kept.2

end Paths

namespace World

/-- The references that the managed side has taken and not given back. -/
def outstanding (world : World σ Mark) (id : EntryId) : Nat :=
  retainsIn (world.deeds id) - releasesIn (world.deeds id)

/-- No handle stands for the registration. -/
def Absent (world : World σ Mark) (id : EntryId) : Prop :=
  ∀ handle, world.own.registry.lookup? handle ≠ some id

/-- The native reference is given up: while retains are outstanding, the
registration is closed and bound, and with the last of them it is disposed of
and absent. Every disposal has been counted once. -/
structure Relinquished (world : World σ Mark) (id : EntryId) : Prop where
  native : (world.life id).nativeRef = false
  closed : (world.life id).state = .closed ↔ world.outstanding id ≠ 0
  disposed : (world.life id).state = .disposed ↔ world.outstanding id = 0
  absent : world.Absent id ↔ world.outstanding id = 0
  counted : world.own.metrics.disposed = world.disposals

end World

section Runs

variable [Custodian σ] {world : World σ Mark} {peer : Peer}

namespace Attained

theorem accounts (attained : Attained world) (id : EntryId) :
    (world.life id).Accounts (world.deeds id) :=
  attained.registration .fresh (fun held accounts turn => accounts.turn held turn) id

theorem countsDisposals (attained : Attained world) : world.CountsDisposals :=
  attained.invariant (fun _ _ => rfl) fun sound counts stride => stride.countsDisposals sound counts

/-- The lifecycle counts what is outstanding. -/
theorem managedRefs (attained : Attained world) (id : EntryId) :
    (world.life id).managedRefs = world.outstanding id := by
  have managed := (attained.accounts id).managed
  unfold World.outstanding
  omega

/-- A handle stands for a registration that is not disposed of. -/
theorem absent_iff (attained : Attained world) (genuine : world.Genuine peer) :
    world.Absent peer.entry ↔ (world.life peer.entry).state = .disposed := by
  obtain ⟨entry, found, _⟩ := genuine
  have bound := attained.sound.bound found
  rw [World.life_of_entry found]
  constructor
  · intro absent
    by_contra live
    exact absent entry.handle (bound.mpr live)
  · intro disposed handle stands
    obtain ⟨other, found', rfl⟩ := attained.sound.found stands
    obtain rfl : entry = other := Option.some.inj (found.symm.trans found')
    exact bound.mp stands disposed

theorem relinquished (attained : Attained world) (genuine : world.Genuine peer)
    (given : (world.life peer.entry).nativeRef = false) : world.Relinquished peer.entry := by
  have held := attained.sound.life_held peer.entry
  have reflects := attained.reflects peer.entry
  have begun : .callback .closed ∈ world.deeds peer.entry := by
    rw [← reflects.closed]
    by_contra live
    rw [held.native (Bool.eq_false_iff.mpr live)] at given
    cases given
  have settled := (attained.accounts peer.entry).settled held reflects
    fun closing => Bool.false_ne_true (given.symm.trans closing.2)
  have managed := (attained.accounts peer.entry).managed
  have disposed : (world.life peer.entry).state = .disposed ↔
      world.outstanding peer.entry = 0 := by
    rw [settled.disposed]
    unfold World.outstanding
    constructor
    · rintro ⟨_, same⟩
      omega
    · intro none
      exact ⟨begun, by omega⟩
  refine ⟨given, ?_, disposed, (attained.absent_iff genuine).trans disposed,
    attained.countsDisposals⟩
  rw [settled.closed]
  unfold World.outstanding
  constructor
  · rintro ⟨_, fewer⟩
    omega
  · intro some
    exact ⟨begun, by omega⟩

/-- A release of what is outstanding is one less. -/
theorem outstanding_of_released (attained : Attained world) (genuine : world.Genuine peer)
    {left : Nat} (owed : world.outstanding peer.entry = left + 1) (behaviour : Behaviour σ)
    (depth : Nat) :
    ((BridgeCall.socket peer.entry .release).make behaviour (depth + 1) world).2.outstanding
      peer.entry = left := by
  let call := BridgeCall.socket peer.entry .release
  let called := world.push (.marked (.called call))
  have calledSound : called.Sound := attained.sound.push _
  have managed := (attained.managedRefs peer.entry).trans owed
  obtain ⟨registration, found, _⟩ := genuine
  have found' : called.entry? peer.entry = some registration := found
  cases taken : (called.life peer.entry).release with
  | error refusal =>
      obtain ⟨nothing, _⟩ := Lifecycle.release_error taken
      have none : (world.life peer.entry).managedRefs = 0 := by
        rcases nothing with disposed | none
        · exact ((calledSound.life_held peer.entry).disposed disposed).2
        · exact none
      omega
  | ok outcome =>
      obtain ⟨after, ran, plain⟩ : ∃ after, call.perform _ called = (.ok .done, after) ∧ _ :=
        BridgeCall.release_runs calledSound found' taken
      have told : (call.make behaviour (depth + 1) world).2.deeds peer.entry =
          world.deeds peer.entry ++ [.release .done] := by
        rw [BridgeCall.make_succ]
        unfold BridgeCall.replied
        rw [ran, World.deeds_push, plain.deeds, World.deeds_concluded,
          (called.plain_engage peer.entry).deeds, World.deeds_push]
        simp [Moment.deed?, Mark.deed?, Reply.ofOutcome, call]
      unfold World.outstanding at owed ⊢
      rw [told, retainsIn_concat, releasesIn_concat]
      simp only [Deed.isRetain, Deed.isRelease, if_true, Bool.false_eq_true, if_false]
      omega

/-- As many releases as are outstanding leave nothing. -/
theorem outstanding_of_releases (attained : Attained world) (genuine : world.Genuine peer)
    {left : Nat} (owed : world.outstanding peer.entry = left) (behaviour : Behaviour σ)
    (depth : Nat) :
    (behaviour.inTurn (depth + 1) (List.replicate left (.socket peer.entry .release))
      world).outstanding peer.entry = 0 := by
  induction left generalizing world with
  | zero => exact owed
  | succ left inductionHypothesis =>
      let call := BridgeCall.socket peer.entry .release
      have evolves := call.make_evolves behaviour (depth + 1) attained.sound
      exact inductionHypothesis (attained.called behaviour (depth + 1) call)
        (evolves.genuine genuine) (attained.outstanding_of_released genuine owed behaviour depth)

/-- The end of a connection is accepted wherever its callback has not begun, and
the reply is the end of that callback. -/
theorem closed_accepted (attained : Attained world) (genuine : world.Genuine peer)
    (unclosed : .callback .closed ∉ world.deeds peer.entry) (works : world.runtime.Works)
    (behaviour : Behaviour σ) (depth : Nat) (domain code : Int) (message : Bytes) :
    let ended := (BridgeCall.native peer.handle (.closed domain code message)).make behaviour
      (depth + 1) world
    (ended.1 = .ok .done ∨ ∃ panic, ended.1 = .ok (.panicked panic)) ∧
      .callback .closed ∈ ended.2.deeds peer.entry := by
  let call := BridgeCall.native peer.handle (.closed domain code message)
  let host := behaviour.host (BridgeCall.make behaviour depth)
  let called := world.push (.marked (.called call))
  have live : (world.life peer.entry).state.isClosed = false := by
    by_contra closed
    exact unclosed ((attained.reflects peer.entry).closed.mp (eq_true_of_ne_false closed))
  have calledSound : called.Sound := attained.sound.push _
  have known : called.peer? peer.handle = some peer :=
    calledSound.peer?_of_genuine genuine (SocketState.ne_disposed_of_not_isClosed live)
  obtain ⟨outcome, after, ran, delivered, told⟩ := Delivery.onClosed_tells
    (behaviour.host_make_evolves depth) calledSound known live works domain code message
  intro ended
  -- What the report has told its target is there still when it is replied to.
  have replied {reply : Except Panic Reply} (performed : call.perform host called = (reply, after)) :
      ended.1 = .ok (.ofOutcome reply) ∧ .callback .closed ∈ ended.2.deeds peer.entry := by
    have made : ended = _ := BridgeCall.make_runs behaviour depth call world
    rw [made]
    unfold BridgeCall.replied
    rw [performed, World.deeds_push]
    exact ⟨rfl, List.mem_append_left _ told⟩
  rcases outcome with panic | error | result
  · obtain ⟨reply, told⟩ := replied (bind_of_error ran)
    exact ⟨.inr ⟨panic, reply⟩, told⟩
  · exact absurd rfl (delivered error)
  · obtain ⟨reply, told⟩ := replied (bind_of_ok ran)
    exact ⟨.inl reply, told⟩

/-- Once a call is over, the native reference is given up of all whose closed
callback has begun in it, at whatever depth. -/
theorem nativeRef_of_made (attained : Attained world) {id : EntryId}
    (unclosed : .callback .closed ∉ world.deeds id) (behaviour : Behaviour σ) (depth : Nat)
    (call : BridgeCall)
    (begun : .callback .closed ∈ (call.make behaviour depth world).2.deeds id) :
    ((call.make behaviour depth world).2.life id).nativeRef = false := by
  have evolves := call.make_evolves behaviour depth attained.sound
  have ended := attained.called behaviour depth call
  have closed := (ended.reflects id).closed.mpr begun
  by_contra native
  -- If it were held still, the lifecycle would be closing, as it was before the call.
  have closing := ((ended.sound.life_held id).closing_iff
    (eq_true_of_ne_false native)).mpr closed
  rw [evolves.closing] at closing
  refine unclosed ((attained.reflects id).closed.mp ?_)
  rw [closing.1]
  rfl

end Attained

/-- From here on the registration lasts as long as retains of it are outstanding,
and giving them up is its end. -/
structure World.LastsByRetains (world : World σ Mark) (id : EntryId) : Prop where
  relinquished {later : World σ Mark} (onward : Onward world later) : later.Relinquished id
  /-- What is disposed of stays so. -/
  final {later last : World σ Mark} (onward : Onward world later) (further : Onward later last)
      (disposed : (later.life id).state = .disposed) : (last.life id).state = .disposed
  ends {later : World σ Mark} (onward : Onward world later) (behaviour : Behaviour σ)
      (depth : Nat) :
      let releases := List.replicate (later.outstanding id) (BridgeCall.socket id .release)
      ((behaviour.inTurn (depth + 1) releases later).life id).state = .disposed

theorem Attained.lastsByRetains (attained : Attained world) (genuine : world.Genuine peer)
    (given : (world.life peer.entry).nativeRef = false) : world.LastsByRetains peer.entry := by
  have relinquished {later : World σ Mark} (onward : Onward world later) :
      later.Relinquished peer.entry := by
    have path := onward.path attained.sound
    exact (onward.attained attained).relinquished (path.genuine genuine)
      (path.nativeRef attained.sound given)
  refine ⟨relinquished, ?_, ?_⟩
  · intro later last onward further disposed
    have there := onward.attained attained
    exact (further.path there.sound).disposed there.sound (there.reflects _) disposed
  · intro later onward behaviour depth releases
    have path := onward.path attained.sound
    refine (relinquished (onward.inTurn behaviour (depth + 1) releases)).disposed.mpr ?_
    exact (onward.attained attained).outstanding_of_releases (path.genuine genuine) rfl behaviour
      depth

/-- Panics never strand a registration. In every world that user code comes to
see, at whatever depth and with whatever panics behind it:

* the panic of a callback is the reply to the report that calls back;
* a call leaves every thread attached as before, however it ends;
* the end of a connection is accepted where its callback has not begun, as long
  as the runtime works;
* once that callback has begun in a call, however deep in it and whatever it ends
  in, the registration lasts by retains alone when the call is over. -/
theorem Attained.never_stranded (attained : Attained world) :
    (∀ (behaviour : Behaviour σ) (depth : Nat) (handle : Handle) (event : NativeEvent),
      behaviour.Unwinds depth handle event world) ∧
    (∀ behaviour : Behaviour σ, behaviour.LeavesAttachments → ∀ (depth : Nat) (call : BridgeCall),
      world.Steady (call.make behaviour depth world).2) ∧
    ∀ peer, world.Genuine peer → .callback .closed ∉ world.deeds peer.entry →
      (world.runtime.Works → ∀ (behaviour : Behaviour σ) (depth : Nat) (domain code : Int)
        (message : Bytes),
        let ended := (BridgeCall.native peer.handle (.closed domain code message)).make behaviour
          (depth + 1) world
        (ended.1 = .ok .done ∨ ∃ panic, ended.1 = .ok (.panicked panic)) ∧
          .callback .closed ∈ ended.2.deeds peer.entry) ∧
      ∀ (behaviour : Behaviour σ) (depth : Nat) (call : BridgeCall),
        let ended := (call.make behaviour depth world).2
        .callback .closed ∈ ended.deeds peer.entry → ended.LastsByRetains peer.entry := by
  refine ⟨fun behaviour depth handle event => behaviour.unwinds depth handle event world,
    fun behaviour leaves depth call => leaves.make_steady depth call world, ?_⟩
  intro peer genuine unclosed
  refine ⟨fun works behaviour depth domain code message => ?_, fun behaviour depth call => ?_⟩
  · exact attained.closed_accepted genuine unclosed works behaviour depth domain code message
  · intro ended begun
    have evolves := call.make_evolves behaviour depth attained.sound
    exact (attained.called behaviour depth call).lastsByRetains (evolves.genuine genuine)
      (attained.nativeRef_of_made unclosed behaviour depth call begun)

end Runs

/-! ### A connection that ends within its opening -/

namespace Bystander

/-- A target that keeps the connection when it is opened, has it end at once,
and panics on both occasions. -/
def collapsing : Behaviour Bystander :=
  answering fun event =>
    match event with
    | .openRequest _ _ =>
      .call (.socket ⟨0⟩ .retain) fun _ =>
        .call (.native handle (.closed 0 1000 [])) fun _ => .unwind .other
    | .closed _ => .unwind (.text "handler failed")
    | _ => .finish ()

theorem collapsing_leavesAttachments : collapsing.LeavesAttachments where
  callback _ _ event := by
    cases event with
    | openRequest => exact fun _ _ => trivial
    | _ => trivial
  createHandle _ _ := trivial
  engine _ _ := trivial
  createTarget _ _ _ _ := trivial

/-- Over a simulated runtime, nothing has been told of the connection yet. -/
def adopted : World Bystander Mark :=
  collapsing.inTurn 1 [.adoptInbound handle ⟨0⟩] simulating

/-- The report of the open request, within whose callback the connection ends. -/
def opening : BridgeCall :=
  .native handle (.openRequest ⟨"stream", "near", 1, ""⟩ (.transferable []))

/-- What the target has left behind. -/
def collapsed : World Bystander Mark :=
  (opening.make collapsing 3 adopted).2

end Bystander

open Bystander in
theorem Attained.never_stranded_of_collapsed :
    (opening.make collapsing 3 adopted).1.toOption = some (.panicked .other) ∧
    collapsed.callbacks ⟨0⟩ = [.openRequest, .closed] ∧ adopted.Steady collapsed ∧
    collapsed.LastsByRetains ⟨0⟩ ∧ collapsed.outstanding ⟨0⟩ = 1 ∧
    ((collapsing.inTurn 1 [.socket ⟨0⟩ .release] collapsed).life ⟨0⟩).state = .disposed ∧
    .callback .closed ∈
      ((BridgeCall.native handle (.closed 0 1000 [])).make collapsing 1 adopted).2.deeds ⟨0⟩ := by
  have panicked : (opening.make collapsing 3 adopted).1.toOption = some (.panicked .other) := by
    decide +kernel
  have told : collapsed.callbacks ⟨0⟩ = [.openRequest, .closed] := by decide +kernel
  have listed : .closed ∈ collapsed.callbacks ⟨0⟩ := by
    rw [told]
    decide
  have unclosed : .callback .closed ∉ adopted.deeds ⟨0⟩ := by decide +kernel
  have named : (adopted.entry? ⟨0⟩).map Entry.handle = some handle := by decide +kernel
  have genuine : adopted.Genuine ⟨⟨0⟩, handle⟩ := Option.map_eq_some_iff.mp named
  have works : adopted.runtime.Works := by
    have kept : adopted.runtime = .simulated {} := by decide +kernel
    rw [kept]
    exact ⟨rfl, rfl, rfl⟩
  have owed : collapsed.outstanding ⟨0⟩ = 1 := by decide +kernel
  have reached : Reachable adopted := .inTurn (.fresh _ _) _ _ _
  obtain ⟨_, steady, closes⟩ := never_stranded reached.attained
  obtain ⟨accepted, stranded⟩ := closes ⟨⟨0⟩, handle⟩ genuine unclosed
  have lasts : collapsed.LastsByRetains ⟨0⟩ :=
    stranded collapsing 3 opening (mem_callbacksIn.mp listed)
  have ended := lasts.ends .here collapsing 0
  rw [owed] at ended
  exact ⟨panicked, told, steady collapsing collapsing_leavesAttachments 3 opening, lasts, owed,
    ended, (accepted works collapsing 0 0 1000 []).2⟩

end TransportBridge
