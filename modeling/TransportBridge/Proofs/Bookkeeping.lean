import TransportBridge.Proofs.RunPaths

/-!
Contract: registry, pins and counters agree, and no lapse of the books is ever
heard of.

Owns: that every stride counts the bindings that it makes and undoes, that no
stride is a lapse, and what both come to between the calls at the top.

Does not own: soundness. That an entry is bound and pinned for as long as it is
not disposed of is a part of it already.
-/

namespace TransportBridge

variable {σ : Type} {world after : World σ Mark} {peer : Peer}

namespace World

/-- Registry, pins and counters tell the same of every registration. -/
structure Agrees (world : World σ Mark) : Prop where
  /-- A handle stands for one entry at most. -/
  unique {handle : Handle} {first second : EntryId} :
    (handle, first) ∈ world.own.registry.bindings →
    (handle, second) ∈ world.own.registry.bindings → first = second
  /-- The registry has those entries that are not disposed of, and no others. -/
  bound {handle : Handle} {id : EntryId} : (handle, id) ∈ world.own.registry.bindings ↔
    ∃ entry, world.entry? id = some entry ∧ entry.handle = handle ∧
      entry.life.state ≠ .disposed
  counted : world.own.metrics.registered =
    world.own.metrics.disposed + world.own.registry.size
  pinned {id : EntryId} {entry : Entry} : world.entry? id = some entry →
    (entry.life.pin.isSome = true ↔ entry.life.state ≠ .disposed)
  /-- Nothing is left of an entry that is disposed of. -/
  spent {id : EntryId} {entry : Entry} : world.entry? id = some entry →
    entry.life.state = .disposed →
    entry.life.retainCount = 0 ∧ entry.life.pendingWrite = 0 ∧
      entry.life.unackedReceive = 0 ∧ entry.life.receives = []

/-! ## Counting the bindings -/

/-- The counters tell how many handles are bound. -/
def CountsBindings (world : World σ Mark) : Prop :=
  world.own.metrics.registered = world.own.metrics.disposed + world.own.registry.size

namespace CountsBindings

theorem plain (counts : world.CountsBindings) (plain : world.Plain after) :
    after.CountsBindings := by
  unfold CountsBindings
  rw [plain.registered, plain.disposed, plain.registry]
  exact counts

theorem setLife (counts : world.CountsBindings) (id : EntryId) (life : Lifecycle) :
    (world.setLife id life).CountsBindings :=
  counts

theorem push (counts : world.CountsBindings) (moment : Moment Mark) :
    (world.push moment).CountsBindings :=
  counts

theorem enrolled (counts : world.CountsBindings) {registry : Registry} {handle : Handle}
    (inserted : world.own.registry.insert? handle ⟨world.entries.size⟩ = some registry)
    (target : TargetId) : (world.enrolled registry handle target).CountsBindings := by
  have grown := Registry.size_of_insert? inserted
  show world.own.metrics.registered + 1 = world.own.metrics.disposed + registry.size
  rw [grown, counts, Nat.add_assoc]

/-- The handle that is freed was bound, as its entry was not disposed of. -/
theorem concluded (counts : world.CountsBindings) (sound : world.Sound)
    (genuine : world.Genuine peer) (live : (world.life peer.entry).state ≠ .disposed)
    (outcome : Option Teardown × Lifecycle) : (world.concluded peer outcome).CountsBindings := by
  obtain ⟨remains, next⟩ := outcome
  cases remains with
  | none => exact counts
  | some remains =>
      have shrunk := Registry.size_erase (sound.lookup?_of_genuine genuine live)
      show world.own.metrics.registered =
        world.own.metrics.disposed + 1 + (world.own.registry.erase peer.handle).size
      rw [counts, ← shrunk]
      omega

end CountsBindings

/-- What is left to show of sound books is that their bindings are counted. -/
theorem Sound.agrees (sound : world.Sound) (counts : world.CountsBindings) : world.Agrees where
  unique one two := by
    rw [← Registry.lookup?_eq_some_iff] at one two
    exact Option.some.inj (one.symm.trans two)
  bound {handle id} := by
    rw [← Registry.lookup?_eq_some_iff]
    constructor
    · intro bound
      obtain ⟨entry, found, rfl⟩ := sound.found bound
      exact ⟨entry, found, rfl, (sound.bound found).mp bound⟩
    · rintro ⟨entry, found, rfl, live⟩
      exact (sound.bound found).mpr live
  counted := counts
  pinned {id entry} found := by
    have proper := sound.proper found
    refine ⟨fun pinned disposed => ?_, proper.pinned⟩
    rw [(proper.spent disposed).pin] at pinned
    cases pinned
  spent {id entry} found disposed := by
    have proper := sound.proper found
    have spent := proper.spent disposed
    obtain ⟨native, managed⟩ := proper.held.disposed disposed
    refine ⟨?_, spent.pendingWrite, spent.unackedReceive, spent.receives⟩
    unfold Lifecycle.retainCount
    rw [native, managed]
    rfl

theorem lapses_concluded (world : World σ Mark) (peer : Peer)
    (outcome : Option Teardown × Lifecycle) :
    (world.concluded peer outcome).lapses = world.lapses := by
  obtain ⟨remains, next⟩ := outcome
  cases remains <;> rfl

end World

/-! ## Strides -/

theorem Stride.countsBindings (stride : Stride world after) (sound : world.Sound)
    (counts : world.CountsBindings) : after.CountsBindings := by
  cases stride with
  | plain plain => exact counts.plain plain
  | registered inserted plain => exact (counts.enrolled inserted _).plain plain
  | called genuine accepts plain attached => exact ((counts.setLife _ _).plain plain).push _
  | missed genuine misses plain => exact (counts.setLife _ _).plain plain
  | opened genuine begun plain => exact (counts.setLife _ _).plain plain
  | settled genuine given plain =>
      obtain ⟨_, closed, _⟩ := Lifecycle.releaseNative_ok given
      have live : (world.life _).state ≠ .disposed :=
        fun disposed => nomatch closed.symm.trans disposed
      exact (counts.concluded sound genuine live _).plain plain
  | forwarded genuine forwards plain => exact ((counts.setLife _ _).plain plain).push _
  | retained genuine taken plain => exact ((counts.setLife _ _).plain plain).push _
  | released genuine given plain =>
      obtain ⟨live, _, _⟩ := Lifecycle.release_ok given
      exact ((counts.concluded sound genuine live _).plain plain).push _
  | unreleased genuine refused plain => exact (counts.plain plain).push _

/-- No stride is a lapse, not even a release that is refused. -/
theorem Stride.lapses (stride : Stride world after) : after.lapses = world.lapses := by
  cases stride with
  | plain plain => exact plain.lapses
  | registered inserted plain => exact plain.lapses
  | called genuine accepts plain attached => exact (World.lapses_push _ rfl).trans plain.lapses
  | missed genuine misses plain => exact plain.lapses
  | opened genuine begun plain => exact plain.lapses
  | settled genuine given plain => exact plain.lapses.trans (World.lapses_concluded _ _ _)
  | forwarded genuine forwards plain => exact (World.lapses_push _ rfl).trans plain.lapses
  | retained genuine taken plain => exact (World.lapses_push _ rfl).trans plain.lapses
  | released genuine given plain =>
      exact (World.lapses_push _ rfl).trans
        (plain.lapses.trans (World.lapses_concluded _ _ _))
  | @unreleased ready peer refusal genuine refused plain =>
      have noLapse : (Reply.rejected (refusal.toError peer.handle)).isLapse = false :=
        (refusal.toError_isLapse _).trans (Lifecycle.release_refused refused)
      refine (World.lapses_push _ ?_).trans plain.lapses
      exact noLapse

/-! ## Runs -/

namespace Reachable

variable [Custodian σ]

theorem countsBindings (reached : Reachable world) : world.CountsBindings :=
  reached.invariant (fun _ _ => rfl) fun sound counts stride => stride.countsBindings sound counts

theorem no_lapses (reached : Reachable world) : world.lapses = [] :=
  reached.invariant (fun _ _ => rfl) fun _ none stride => stride.lapses.trans none

/-- Between the calls at the top the books agree, and at no time has anybody
been told of a lapse of theirs, by a reply or by the log. -/
theorem books_agree (reached : Reachable world) :
    world.Agrees ∧ ∀ moment ∈ world.trace, moment.isLapse = false := by
  refine ⟨reached.sound.agrees reached.countsBindings, fun moment member => ?_⟩
  have listed := Array.mem_toList_iff.mpr member
  exact Bool.eq_false_iff.mpr (List.filter_eq_nil_iff.mp reached.no_lapses moment listed)

/-- While bytes are told to a target, it tries to adopt its own handle for
another one. The closed callback panics, the handle is bound anew, and whoever
still has the connection that has ended tries to retain it. -/
def boundAnew : World Bystander Mark :=
  let meddling : SocketEvent → UserCode Bystander Unit
    | .received _ => .call (.adoptInbound Bystander.handle ⟨1⟩) fun _ => .finish ()
    | .closed _ => .unwind .other
    | _ => .finish ()
  (Bystander.answering meddling).inTurn 2
    [.adoptInbound Bystander.handle ⟨0⟩,
      .native Bystander.handle (.openRequest ⟨"ws", "host", 80, "/"⟩ (.transferable [])),
      .native Bystander.handle (.received (.borrowed [1, 2])),
      .native Bystander.handle (.closed 0 1000 []), .adoptInbound Bystander.handle ⟨1⟩,
      .socket ⟨0⟩ .retain]
    Bystander.start

theorem books_agree_of_bound_anew :
    (Bystander.handle, ⟨1⟩) ∈ boundAnew.own.registry.bindings ∧
    (Bystander.handle, ⟨0⟩) ∉ boundAnew.own.registry.bindings ∧
    boundAnew.own.metrics.registered = 2 ∧ boundAnew.own.metrics.disposed = 1 ∧
    boundAnew.own.registry.size = 1 ∧ (boundAnew.life ⟨0⟩).receives = [] ∧
    ∀ moment ∈ boundAnew.trace, moment.isLapse = false := by
  have reached : Reachable boundAnew := Bystander.reachable_inTurn _ _ _
  obtain ⟨agrees, noLapses⟩ := books_agree reached
  have bound : (Bystander.handle, ⟨1⟩) ∈ boundAnew.own.registry.bindings := by decide +kernel
  have registered : boundAnew.own.metrics.registered = 2 := by decide +kernel
  have size : boundAnew.own.registry.size = 1 := by decide +kernel
  have disposed : boundAnew.own.metrics.disposed = 1 := by
    have counted := agrees.counted
    omega
  have unbound : (Bystander.handle, ⟨0⟩) ∉ boundAnew.own.registry.bindings := by
    intro also
    cases agrees.unique also bound
  have ended : (boundAnew.life ⟨0⟩).state = .disposed := by decide +kernel
  have left : (boundAnew.life ⟨0⟩).receives = [] := by
    cases found : boundAnew.entry? ⟨0⟩ with
    | none => rw [World.life_of_absent found]
    | some entry =>
        rw [World.life_of_entry found] at ended ⊢
        exact (agrees.spent found ended).2.2.2
  exact ⟨bound, unbound, registered, disposed, size, left, noLapses⟩

end Reachable

end TransportBridge
