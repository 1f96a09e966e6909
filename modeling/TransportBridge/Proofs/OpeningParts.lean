import TransportBridge.Proofs.OpeningTurns

/-!
Contract: what the parts of an opening, and of an open request, do to the books.

Between binding a handle and adopting the pin, the books have an entry that is
not sound yet: nothing is pinned. All that the parts look at is that entry, and
whether the handle stands for it. So the worlds of both calls are told apart by
how far the entry is, up to what leaves entries and handles alone.

Owns: what leaves the entries alone, a handle that has been bound, and the effect
of each part at each stage of the entry.
Does not own: in which order the parts come.
-/

namespace TransportBridge

open References Registration Delivery

variable {σ α : Type} {base world middle after : World σ Mark}

/-! ## What leaves the entries alone -/

/-- Entries and handles, the runtime and the factory are as they were. Counters,
the trace, what is held, and the host may have changed. -/
structure World.Undisturbed (before after : World σ Mark) : Prop where
  entries : after.entries = before.entries
  registry : after.own.registry = before.own.registry
  runtime : after.runtime = before.runtime
  factory : after.factory = before.factory

namespace World.Undisturbed

theorem refl (world : World σ Mark) : world.Undisturbed world :=
  ⟨rfl, rfl, rfl, rfl⟩

theorem trans (one : world.Undisturbed middle) (two : middle.Undisturbed after) :
    world.Undisturbed after :=
  ⟨two.entries.trans one.entries, two.registry.trans one.registry,
    two.runtime.trans one.runtime, two.factory.trans one.factory⟩

theorem found (same : world.Undisturbed after) (id : EntryId) :
    after.entry? id = world.entry? id := by
  unfold World.entry?
  rw [same.entries]

theorem sound (same : world.Undisturbed after) (sound : world.Sound) : after.Sound :=
  sound.of_same same.entries same.registry

theorem works (same : world.Undisturbed after) (works : world.runtime.Works) :
    after.runtime.Works :=
  same.runtime ▸ works

theorem setLife (same : world.Undisturbed after) (id : EntryId) (life : Lifecycle) :
    (world.setLife id life).Undisturbed (after.setLife id life) where
  entries := by
    unfold World.setLife
    rw [same.entries]
  registry := same.registry
  runtime := same.runtime
  factory := same.factory

theorem push (world : World σ Mark) (moment : Moment Mark) :
    world.Undisturbed (world.push moment) :=
  ⟨rfl, rfl, rfl, rfl⟩

theorem count (world : World σ Mark) (change : Metrics → Metrics) :
    world.Undisturbed (world.count .own change) :=
  ⟨rfl, rfl, rfl, rfl⟩

theorem engage (world : World σ Mark) (entry : EntryId) :
    world.Undisturbed (world.engage entry) :=
  ⟨rfl, rfl, rfl, rfl⟩

theorem hosted (world : World σ Mark) (left : σ) :
    world.Undisturbed { world with host := left } :=
  ⟨rfl, rfl, rfl, rfl⟩

theorem reject (error : BridgeError) (world : World σ Mark) :
    ∃ after, (References.reject .own error : Call σ Mark α) world = (.ok (.error error), after) ∧
      world.Undisturbed after := by
  cases violated : error.isInvariantViolation with
  | true =>
    have reported : (References.report .own error : BridgeM σ Mark BridgeError) world =
        (.ok error, (world.count .own Metrics.countViolation).push
          (.noted (.invariantViolated error))) := by
      unfold References.report
      rw [if_pos violated]
      rfl
    exact ⟨_, effectBind_of_ok reported, (count world _).trans (push _ _)⟩
  | false =>
    have reported : (References.report .own error : BridgeM σ Mark BridgeError) world =
        (.ok error, world.push (.noted (.callRejected error))) := by
      unfold References.report
      rw [violated]
      rfl
    exact ⟨_, effectBind_of_ok reported, push world _⟩

theorem announce (handle : Handle) (world : World σ Mark) :
    ∃ after, Registration.announce handle world = (.ok (), after) ∧ world.Undisturbed after :=
  ⟨_, bind_of_ok rfl, (count world _).trans (push _ _)⟩

theorem dropBuffer (buffer : NativeBuffer Hook) (world : World σ Mark) :
    ∃ after, TransportBridge.dropBuffer buffer world = (.ok (), after) ∧
      world.Undisturbed after := by
  obtain ⟨after, dropped, spared⟩ := dropBuffer_spared buffer world
  obtain ⟨_⟩ := spared
  exact ⟨_, dropped, rfl, rfl, rfl, rfl⟩

end World.Undisturbed

/-! ## A handle that has been bound -/

namespace World

theorem Begins.registry {peer : Peer} {target : TargetId} {event : SocketEvent}
    (begins : world.Begins peer target event after) :
    after.own.registry = world.own.registry := by
  obtain ⟨_, ⟨_, _, _⟩⟩ := begins
  rfl

theorem Begins.found {peer : Peer} {target : TargetId} {event : SocketEvent}
    (begins : world.Begins peer target event after) (id : EntryId) :
    after.entry? id = world.entry? id := by
  unfold World.entry?
  rw [begins.entries]

/-- The handle stands for the registration of a peer. -/
def Occupied (world : World σ Mark) (peer : Peer) : Prop :=
  ∃ entry, world.entry? peer.entry = some entry ∧ entry.handle = peer.handle ∧
    world.own.registry.lookup? peer.handle = some peer.entry

namespace Occupied

variable {peer : Peer}

theorem peer? (occupied : world.Occupied peer) : world.peer? peer.handle = some peer := by
  obtain ⟨_, _, _, found⟩ := occupied
  unfold World.peer?
  rw [found]
  rfl

theorem undisturbed (occupied : world.Occupied peer) (same : world.Undisturbed after) :
    after.Occupied peer := by
  obtain ⟨entry, found, handle, bound⟩ := occupied
  exact ⟨entry, (same.found _).trans found, handle, same.registry ▸ bound⟩

theorem setLife (occupied : world.Occupied peer) (life : Lifecycle) :
    (world.setLife peer.entry life).Occupied peer := by
  obtain ⟨entry, found, handle, bound⟩ := occupied
  refine ⟨{ entry with life }, ?_, handle, bound⟩
  rw [World.entry?_setLife, if_pos rfl, found]
  rfl

theorem binds (occupied : world.Occupied peer) : world.binds peer.entry = true := by
  obtain ⟨entry, found, handle, bound⟩ := occupied
  unfold World.binds
  rw [found, Option.any_some, handle, bound]
  exact beq_self_eq_true _

end Occupied

/-- An entry that its handle does not stand for has nothing left to give. -/
def Tidy (world : World σ Mark) : Prop :=
  ∀ id, world.binds id = false → (world.life id).abandon = (([], none), world.life id)

theorem Sound.tidy (sound : world.Sound) : world.Tidy :=
  fun _ => Custody.abandon_of_unbound sound

namespace Tidy

theorem undisturbed (tidy : world.Tidy) (same : world.Undisturbed after) : after.Tidy := by
  intro id unbound
  have life : after.life id = world.life id := by
    unfold World.life
    rw [same.found id]
  rw [life]
  refine tidy id ?_
  unfold World.binds at unbound ⊢
  rwa [same.found id, same.registry] at unbound

/-- The lifecycle of an entry that its handle stands for does not matter. -/
theorem setLife {peer : Peer} (tidy : world.Tidy) (occupied : world.Occupied peer)
    (life : Lifecycle) : (world.setLife peer.entry life).Tidy := by
  intro id unbound
  have other : id ≠ peer.entry := by
    rintro rfl
    rw [(occupied.setLife life).binds] at unbound
    cases unbound
  have same : World.entry? (world.setLife peer.entry life) id = world.entry? id := by
    rw [World.entry?_setLife, if_neg other]
  have sameLife : (world.setLife peer.entry life).life id = world.life id := by
    unfold World.life
    rw [same]
  rw [sameLife]
  refine tidy id ?_
  unfold World.binds at unbound ⊢
  rwa [same] at unbound

end Tidy

/-- The world after a handle is bound to a new entry with that lifecycle. -/
def entered (world : World σ Mark) (registry : Registry) (handle : Handle) (target : TargetId)
    (life : Lifecycle) : World σ Mark :=
  { world with
    own := { world.own with registry }
    entries := world.entries.push ⟨handle, target, life⟩ }

section Entered

variable {registry : Registry} {handle : Handle} {target : TargetId} {life : Lifecycle}

theorem entry?_of_entered (same : (base.entered registry handle target life).Undisturbed world) :
    world.entry? ⟨base.entries.size⟩ = some ⟨handle, target, life⟩ :=
  (same.found _).trans Array.getElem?_push_size

theorem life_of_entered (same : (base.entered registry handle target life).Undisturbed world) :
    world.life ⟨base.entries.size⟩ = life :=
  World.life_of_entry (entry?_of_entered same)

theorem setLife_of_entered (same : (base.entered registry handle target life).Undisturbed world)
    (next : Lifecycle) :
    (base.entered registry handle target next).Undisturbed
      (world.setLife ⟨base.entries.size⟩ next) := by
  have entries : (base.entered registry handle target life).setLife ⟨base.entries.size⟩ next =
      base.entered registry handle target next :=
    congrArg (fun entries => { base.entered registry handle target next with entries })
      (modify_push_size base.entries ⟨handle, target, life⟩ fun entry =>
        { entry with life := next })
  rw [← entries]
  exact same.setLife _ next

theorem occupied_of_entered
    (inserted : base.own.registry.insert? handle ⟨base.entries.size⟩ = some registry)
    (same : (base.entered registry handle target life).Undisturbed world) :
    world.Occupied ⟨⟨base.entries.size⟩, handle⟩ := by
  have bound : registry.lookup? handle = some ⟨base.entries.size⟩ :=
    (Registry.lookup?_of_insert? inserted handle).trans (if_pos rfl)
  exact ⟨_, entry?_of_entered same, rfl, same.registry ▸ bound⟩

/-- With the pin adopted, it is a registration like any other. -/
theorem sound_of_entered (sound : base.Sound)
    (inserted : base.own.registry.insert? handle ⟨base.entries.size⟩ = some registry)
    (same : (base.entered registry handle target { pin := some target }).Undisturbed world) :
    world.Sound :=
  (sound.enrolled inserted target).of_same same.entries same.registry

theorem tidy_of_entered (sound : base.Sound)
    (inserted : base.own.registry.insert? handle ⟨base.entries.size⟩ = some registry)
    (same : (base.entered registry handle target life).Undisturbed world) : world.Tidy := by
  let pinned := world.setLife ⟨base.entries.size⟩ { pin := some target }
  have entered : (base.entered registry handle target { pin := some target }).Undisturbed pinned :=
    setLife_of_entered same _
  have back : pinned.setLife ⟨base.entries.size⟩ life = world := by
    rw [World.setLife_setLife, ← life_of_entered same]
    exact world.setLife_life _
  rw [← back]
  exact (sound_of_entered sound inserted entered).tidy.setLife
    (occupied_of_entered inserted entered) life

end Entered

end World

/-! ## What the parts do -/

section Parts

variable [Custodian σ] {registry : Registry} {handle : Handle} {target : TargetId} {peer : Peer}

theorem letGoOfTarget_undisturbed (tidy : world.Tidy) (target : TargetId) :
    ∃ after, Custody.letGoOfTarget target world = (.ok (), after) ∧ world.Undisturbed after := by
  have forgets : ∃ known after, (Custody.forgetTarget target : BridgeM σ Mark _) world =
      (.ok known, after) ∧ world.Undisturbed after := by
    unfold Custody.forgetTarget
    split
    · exact ⟨none, world, rfl, .refl world⟩
    · exact ⟨_, _, rfl, .hosted world _⟩
  obtain ⟨known, after, forgot, same⟩ := forgets
  refine ⟨after, (bind_of_ok forgot).trans ?_, same⟩
  cases known with
  | none => rfl
  | some id => exact Custody.letGo_of_spent (tidy.undisturbed same id)

theorem enter_of_free
    (inserted : base.own.registry.insert? handle ⟨base.entries.size⟩ = some registry)
    (same : base.Undisturbed world) (target : TargetId) :
    ∃ after, enter handle target world = (.ok (.ok ⟨⟨base.entries.size⟩, handle⟩), after) ∧
      (base.entered registry handle target {}).Undisturbed after := by
  have there : world.own.registry.insert? handle ⟨world.entries.size⟩ = some registry := by
    rw [same.registry, same.entries]
    exact inserted
  have bound : bind? handle target world = (.ok (some ⟨⟨world.entries.size⟩, handle⟩),
      world.entered registry handle target {}) := by
    unfold bind?
    simp only [there]
    rfl
  rw [same.entries] at bound
  refine ⟨_, effectBind_of_ok bound, ?_, rfl, same.runtime, same.factory⟩
  exact congrArg (fun entries : Array Entry => entries.push ⟨handle, target, {}⟩) same.entries

theorem enter_of_occupied (occupied : world.Occupied peer) (tidy : world.Tidy)
    (target : TargetId) :
    ∃ after, enter peer.handle target world =
        (.ok (.error (.duplicateHandle peer.handle)), after) ∧ world.Undisturbed after := by
  obtain ⟨_, _, _, found⟩ := occupied
  have taken : world.own.registry.insert? peer.handle ⟨world.entries.size⟩ = none := by
    rw [Registry.insert?_eq_none_iff, Registry.contains_eq_isSome_lookup?, found]
    rfl
  have unbound : bind? peer.handle target world = (.ok none, world) := by
    unfold bind?
    simp only [taken]
  obtain ⟨forgotten, forget, one⟩ := letGoOfTarget_undisturbed tidy target
  obtain ⟨after, rejected, two⟩ := World.Undisturbed.reject (α := Peer)
    (.duplicateHandle peer.handle) forgotten
  exact ⟨after, (effectBind_of_ok unbound).trans ((effectBind_of_ok forget).trans rejected),
    one.trans two⟩

omit [Custodian σ] in
theorem adoptPin_of_entered
    (same : (base.entered registry handle target {}).Undisturbed world) (pin : TargetId) :
    ∃ after, checked .own ⟨⟨base.entries.size⟩, handle⟩ (Lifecycle.adoptPin pin) world =
        (.ok (.ok ()), after) ∧
      (base.entered registry handle target { pin := some pin }).Undisturbed after := by
  have adopts : Lifecycle.adoptPin pin (world.life ⟨base.entries.size⟩) =
      .ok ((), { pin := some pin }) := by
    rw [World.life_of_entered same]
    rfl
  exact ⟨_, checked_of_ok adopts, World.setLife_of_entered same _⟩

omit [Custodian σ] in
theorem beginOpen_of_pinned
    (same : (base.entered registry handle target { pin := some target }).Undisturbed world) :
    ∃ after, checked .own ⟨⟨base.entries.size⟩, handle⟩ Lifecycle.beginOpen world =
        (.ok (.ok target), after) ∧
      (base.entered registry handle target
        { state := .opening, pin := some target }).Undisturbed after := by
  have begins : Lifecycle.beginOpen (world.life ⟨base.entries.size⟩) =
      .ok (target, { state := .opening, pin := some target }) := by
    rw [World.life_of_entered same]
    rfl
  exact ⟨_, checked_of_ok begins, World.setLife_of_entered same _⟩

omit [Custodian σ] in
/-- Before the pin is adopted, a request that begins to open is refused, and so
reported as a broken invariant. -/
theorem beginOpen_of_unpinned
    (same : (base.entered registry handle target {}).Undisturbed world) :
    ∃ after, checked .own ⟨⟨base.entries.size⟩, handle⟩ Lifecycle.beginOpen world =
        (.ok (.error (.invariantViolation (some handle) .targetNotPinned)), after) ∧
      world.Undisturbed after := by
  have refuses : Lifecycle.beginOpen (world.life ⟨base.entries.size⟩) =
      .error (.violation .targetNotPinned) := by
    rw [World.life_of_entered same]
    rfl
  have attempted : attempt ⟨base.entries.size⟩ Lifecycle.beginOpen world =
      (.ok (.error (.violation .targetNotPinned)), world) := by
    unfold attempt
    rw [refuses]
  obtain ⟨after, rejected, kept⟩ := World.Undisturbed.reject (α := TargetId)
    (.invariantViolation (some handle) .targetNotPinned) world
  exact ⟨after, (effectBind_of_ok attempted).trans rejected, kept⟩

theorem leave_of_occupied (occupied : world.Occupied peer) :
    ∃ after, leave peer.entry world = (.ok (), after) ∧ world.Undisturbed after := by
  let left : World σ Mark := { world with engaged := world.engaged.erase peer.entry }
  have binds : left.binds peer.entry = true := occupied.binds
  have held : Custody.isHeld left peer.entry = true := by
    unfold Custody.isHeld
    rw [binds]
    rfl
  exact ⟨left, (bind_of_ok rfl).trans (Custody.letGo_of_isHeld held), rfl, rfl, rfl, rfl⟩

section Delivered

variable {host : Host σ Mark} {address : Address} {bytes : Bytes}

theorem deliverOpen_of_delivered {delivered : World σ Mark}
    (delivery : deliver host peer target (.openRequest address bytes) world =
      (.ok (.ok ()), delivered)) :
    ∃ life after, deliverOpen host handle address bytes peer target world =
        (.ok (.ok ()), after) ∧ (delivered.setLife peer.entry life).Undisturbed after := by
  let finished := delivered.setLife peer.entry (delivered.life peer.entry).finishOpen.2
  have returned : deliverOr host peer target (.openRequest address bytes)
      (undoing peer Lifecycle.abortOpen) world = (.ok (.ok ()), delivered) :=
    effectBind_of_ok delivery
  have ends : deliverOpen host handle address bytes peer target world =
      (if (delivered.life peer.entry).finishOpen.1 then effect (note (.opened handle))
        else pure () : Call σ Mark Unit) finished :=
    (callBind_of_ok returned).trans (effectBind_of_ok rfl)
  refine ⟨(delivered.life peer.entry).finishOpen.2, ?_⟩
  rw [ends]
  cases (delivered.life peer.entry).finishOpen.1 with
  | true => exact ⟨_, effect_of_ok rfl, .push finished _⟩
  | false => exact ⟨finished, rfl, .refl finished⟩

/-- Where the runtime works, an open request that has been accepted begins the
callback, and ends as it does. -/
theorem deliverOpen_begins (hostEvolves : host.Evolves) (sound : base.Sound)
    (inserted : base.own.registry.insert? handle ⟨base.entries.size⟩ = some registry)
    (same : (base.entered registry handle target
      { state := .opening, pin := some target }).Undisturbed world)
    (works : world.runtime.Works) (address : Address) (bytes : Bytes) :
    let peer : Peer := ⟨⟨base.entries.size⟩, handle⟩
    let event : SocketEvent := .openRequest address bytes
    ∃ begun after, world.Begins peer target event begun ∧
      deliverOpen host handle address bytes peer target world =
        ((host.callback peer target event begun).1.map .ok, after) ∧ after.Sound ∧
      ∀ told, host.callback peer target event begun = (.ok (), told) → begun.Undisturbed told →
        after.Occupied peer := by
  intro peer event
  -- The world as it was before the request was accepted, which the books tell of.
  let ready := world.setLife peer.entry { pin := some target }
  have pinned : (base.entered registry handle target { pin := some target }).Undisturbed ready :=
    World.setLife_of_entered same _
  have readySound : ready.Sound := World.sound_of_entered sound inserted pinned
  have genuine : ready.Genuine peer := ⟨_, World.entry?_of_entered pinned, rfl⟩
  have begins : (ready.life peer.entry).beginOpen =
      .ok (target, { state := .opening, pin := some target }) := by
    rw [World.life_of_entered pinned]
    rfl
  have back : ready.setLife peer.entry { state := .opening, pin := some target } = world := by
    have life := World.life_of_entered same
    rw [World.setLife_setLife, ← life]
    exact world.setLife_life peer.entry
  have checking : checked .own peer Lifecycle.beginOpen ready = (.ok (.ok target), world) := by
    rw [checked_of_ok begins, back]
  have accepts : (ready.life peer.entry).Accepts event target _ := .openRequest begins
  have worldSound : world.Sound := back ▸ readySound.keepsHolds accepts.keeps
  obtain ⟨begun, begin, delivers⟩ := (deliver_onset host worldSound peer target event).resolve_left
    fun unready => unready.1 works
  have begunSound := begin.sound worldSound
  have evolves := hostEvolves.callback begunSound peer target event
  rcases ran : host.callback peer target event begun with ⟨outcome, told⟩
  rw [ran] at evolves
  obtain ⟨charge, delivered, delivery, quiet⟩ := delivers ran (evolves.sound begunSound)
  have opens : opening host handle address bytes peer ready =
      deliverOpen host handle address bytes peer target world := callBind_of_ok checking
  obtain ⟨after, ended, _⟩ := opening_of_delivered checking delivery
  have lasts : after.Sound := World.Evolves.sound (World.Evolves.after_run
    (opening_evolves hostEvolves readySound genuine handle address bytes) ended) readySound
  refine ⟨begun, after, begin, ?_, lasts, fun _ returned stood => ?_⟩
  · rw [ran]
    exact opens.symm.trans ended
  obtain ⟨rfl, rfl⟩ := Prod.mk.inj (ran.symm.trans returned)
  obtain ⟨life, last, finished, kept⟩ := deliverOpen_of_delivered delivery
  cases (opens.symm.trans ended).symm.trans finished
  have occupied : delivered.Occupied peer := by
    obtain ⟨entry, found, named, bound⟩ := World.occupied_of_entered inserted same
    have began : begun.Occupied peer :=
      ⟨entry, (begin.found _).trans found, named, begin.registry ▸ bound⟩
    obtain ⟨entry, found, named, bound⟩ := began.undisturbed stood
    exact ⟨entry, (quiet.toPlain.found _).trans found, named, quiet.toPlain.registry ▸ bound⟩
  exact (occupied.setLife life).undisturbed kept

end Delivered

end Parts

end TransportBridge
