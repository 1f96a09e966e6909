import Mathlib.Data.Set.Card
import TransportBridge.Drill.Registry
import TransportBridge.Proofs.Effects

/-!
Contract: the registry as a map of handles, with targets that live by pins.

Owns: what has come of a list of operations, told as registrations, handles that
were freed, and pins that were dropped; which registration stands for a handle
after that, and which targets can still be reached; and, as an invariant that
every operation keeps, that the registry and the pins of a drill agree with it.
References that are retained or released in between are part of the drill and
change none of it.
Does not own: connections with a lifecycle that goes on, whose pins the lifecycle
has.
-/

namespace TransportBridge.Drill

open References Registration

/-! ## Registrations and pins -/

/-- An operation of the drill, or the end of one registration's pin. -/
inductive RegistryMove where
  | perform (op : RegistryOp)
  | unpin (target : TargetId)
deriving DecidableEq, Repr

/-- Drops the pin that holds a target, if it is not dropped yet. -/
def unpin (target : TargetId) : RegistryM RegistryAnswer := fun world =>
  (.ok (.flag (world.host.pins.any (·.2 = target))), { world with
    host := { world.host with pins := world.host.pins.eraseP (·.2 = target) } })

def RegistryMove.run : RegistryMove → RegistryM RegistryAnswer
  | .perform op => op.perform
  | .unpin target => Drill.unpin target

/-- What can have come of an operation. -/
inductive RegistryDeed where
  | registered (peer : Peer) (target : TargetId)
  | unregistered (handle : Handle)
  | unpinned (target : TargetId)
deriving DecidableEq, Repr

/-- The deed may change what the handle stands for. -/
def RegistryDeed.IsAbout (handle : Handle) : RegistryDeed → Prop
  | .registered peer _ => peer.handle = handle
  | .unregistered freed => freed = handle
  | .unpinned _ => False

/-- What is to come of an operation on a world. Its answer tells only of a
registration that is made; which pin goes is told by the pins that there are.
Entries and targets are numbered as they are made. -/
def RegistryMove.deed? (world : World Kept Empty) :
    RegistryMove → RegistryAnswer → Option RegistryDeed
  | .perform (.register handle), .registered _ _ =>
    some (.registered ⟨⟨world.entries.size⟩, handle⟩ ⟨world.entries.size⟩)
  | .perform (.unregister handle), _ => some (.unregistered handle)
  | .perform (.dropPin handle), _ =>
    (world.host.pins.find? (·.1 = handle)).map fun pin => .unpinned pin.2
  | .unpin target, _ =>
    (world.host.pins.find? (·.2 = target)).map fun pin => .unpinned pin.2
  | _, _ => none

/-- A drill, with all that has come of it so far. -/
structure Chronicle where
  world : World Kept Empty := { config := {}, runtime := .inProcess, host := {} }
  deeds : List RegistryDeed := []

def Chronicle.after (chronicle : Chronicle) (move : RegistryMove) : Chronicle :=
  match move.run chronicle.world with
  | (.ok answer, next) =>
    ⟨next, chronicle.deeds ++ (move.deed? chronicle.world answer).toList⟩
  | (.error _, next) => { chronicle with world := next }

theorem Chronicle.after_of_ran {chronicle : Chronicle} {move : RegistryMove}
    {answer : RegistryAnswer} {next : World Kept Empty}
    (ran : move.run chronicle.world = (.ok answer, next)) :
    chronicle.after move =
      ⟨next, chronicle.deeds ++ (move.deed? chronicle.world answer).toList⟩ := by
  unfold after
  rw [ran]

theorem Chronicle.after_perform {chronicle : Chronicle} {op : RegistryOp}
    {answer : RegistryAnswer} {next : World Kept Empty}
    (ran : op.perform chronicle.world = (.ok answer, next)) :
    chronicle.after (.perform op) =
      ⟨next, chronicle.deeds ++
        ((RegistryMove.perform op).deed? chronicle.world answer).toList⟩ :=
  after_of_ran ran

/-- A fresh drill after some operations. -/
def Chronicle.ofMoves (moves : List RegistryMove) : Chronicle :=
  moves.foldl Chronicle.after {}

/-- The registration is the last one of its handle, which was not freed after
it. -/
def Standing (deeds : List RegistryDeed) (peer : Peer) (target : TargetId) : Prop :=
  ∃ before later, deeds = before ++ .registered peer target :: later ∧
    ∀ deed ∈ later, ¬deed.IsAbout peer.handle

/-- Some registration stands for the handle. -/
def Present (deeds : List RegistryDeed) (handle : Handle) : Prop :=
  ∃ entry target, Standing deeds ⟨entry, handle⟩ target

/-- The target of an entry, while something pins it. -/
def targetOf? (world : World Kept Empty) (entry : EntryId) : Option TargetId :=
  (world.entry? entry).bind fun entry =>
    if world.host.pins.any (·.2 = entry.target) then some entry.target else none

/-- The target of the entry that a handle stands for, while something pins it. -/
def lookupTarget? (world : World Kept Empty) (handle : Handle) : Option TargetId :=
  (world.own.registry.lookup? handle).bind (targetOf? world)

/-- The registry is the map that the deeds tell of, and targets are reached by
it exactly while their own pins last. -/
structure ExactMap (deeds : List RegistryDeed) (world : World Kept Empty) : Prop where
  /-- Every operation gives an answer. -/
  answers : ∀ move : RegistryMove, ∃ answer, (move.run world).1 = .ok answer
  /-- Entries and targets belong to one registration each. -/
  distinct : ∀ peer other target twin, .registered peer target ∈ deeds →
    .registered other twin ∈ deeds → peer.entry = other.entry ∨ target = twin →
    peer = other ∧ target = twin
  refuses : ∀ handle, (RegistryOp.perform (.register handle) world).1 =
    .ok (.failed (.duplicateHandle handle)) ↔ Present deeds handle
  /-- A registration that fails changes nothing. -/
  refused : ∀ handle, Present deeds handle →
    (RegistryOp.perform (.register handle) world).2 = world
  registers : ∀ handle, ¬Present deeds handle →
    (RegistryOp.perform (.register handle) world).1 = .ok (.registered handle {})
  lookup : ∀ handle entry, world.own.registry.lookup? handle = some entry ↔
    ∃ target, Standing deeds ⟨entry, handle⟩ target
  contains : ∀ handle, world.own.registry.contains handle = true ↔ Present deeds handle
  /-- The own target of the registration, while its pin is not dropped. -/
  lookupTarget : ∀ handle target, lookupTarget? world handle = some target ↔
    (∃ entry, Standing deeds ⟨entry, handle⟩ target) ∧ .unpinned target ∉ deeds
  /-- The entry of any registration, whether or not its handle was freed. -/
  entryTarget : ∀ peer target, .registered peer target ∈ deeds →
    targetOf? world peer.entry = if .unpinned target ∈ deeds then none else some target
  size : world.own.registry.size = {handle | Present deeds handle}.ncard
  /-- What the drill tells of the target of an entry, and of a lookup. -/
  pinned : ∀ entry, isPinned world entry = (targetOf? world entry).isSome
  flags : ∀ handle, RegistryOp.perform (.lookupTarget handle) world =
    (.ok (.flag (lookupTarget? world handle).isSome), world)

/-! ## What stands after one deed more -/

theorem Standing.mem {deeds : List RegistryDeed} {peer : Peer} {target : TargetId}
    (standing : Standing deeds peer target) : .registered peer target ∈ deeds := by
  obtain ⟨before, later, rfl, -⟩ := standing
  exact List.mem_append_right before List.mem_cons_self

theorem not_standing_nil (peer : Peer) (target : TargetId) : ¬Standing [] peer target :=
  fun standing => List.not_mem_nil standing.mem

theorem standing_concat_iff (deeds : List RegistryDeed) (deed : RegistryDeed) (peer : Peer)
    (target : TargetId) :
    Standing (deeds ++ [deed]) peer target ↔
      deed = .registered peer target ∨
        (¬deed.IsAbout peer.handle ∧ Standing deeds peer target) := by
  constructor
  · rintro ⟨before, later, joined, silent⟩
    rcases List.eq_nil_or_concat later with rfl | ⟨between, last, rfl⟩
    · obtain ⟨-, same⟩ := List.append_inj' joined rfl
      exact .inl (by simpa using same)
    · rw [List.concat_eq_append] at joined silent
      rw [← List.cons_append, ← List.append_assoc] at joined
      obtain ⟨rfl, same⟩ := List.append_inj' joined rfl
      obtain rfl : deed = last := by simpa using same
      exact .inr ⟨silent deed (by simp),
        before, between, rfl, fun other member => silent other (by simp [member])⟩
  · rintro (rfl | ⟨unconcerned, before, later, rfl, silent⟩)
    · exact ⟨deeds, [], rfl, by simp⟩
    · refine ⟨before, later ++ [deed], by simp, ?_⟩
      intro other member
      rcases List.mem_append.mp member with within | last
      · exact silent other within
      · rwa [List.mem_singleton.mp last]

/-! ## What leaves the tables alone -/

/-- What an entry keeps of its registration, and its state. -/
def tag (entry : Entry) : Handle × TargetId × SocketState :=
  (entry.handle, entry.target, entry.life.state)

/-- Registry, pins and entries are as before; counters, the trace, and how often
an entry is referred to may have changed. -/
structure SameTables (world next : World Kept Empty) : Prop where
  registry : next.own.registry = world.own.registry
  host : next.host = world.host
  size : next.entries.size = world.entries.size
  tags : ∀ id, (next.entry? id).map tag = (world.entry? id).map tag

/-- The computation gives a result, and leaves the tables as they are. -/
def Steady {α : Type} (body : RegistryM α) (world : World Kept Empty) : Prop :=
  ∃ result next, body world = (.ok result, next) ∧ SameTables world next

/-- No registration is closed, as nothing is delivered here. -/
def Idle (world : World Kept Empty) : Prop :=
  ∀ id, (world.life id).state = .created

namespace SameTables

variable {world next last : World Kept Empty}

theorem refl (world : World Kept Empty) : SameTables world world :=
  ⟨rfl, rfl, rfl, fun _ => rfl⟩

theorem trans (first : SameTables world next) (second : SameTables next last) :
    SameTables world last :=
  ⟨second.registry.trans first.registry, second.host.trans first.host,
    second.size.trans first.size, fun id => (second.tags id).trans (first.tags id)⟩

theorem setLife {id : EntryId} {life : Lifecycle} (same : life.state = (world.life id).state) :
    SameTables world (world.setLife id life) := by
  refine ⟨rfl, rfl, Array.size_modify .., ?_⟩
  intro other
  rw [World.entry?_setLife]
  split
  · next equal =>
    subst equal
    cases found : world.entry? other with
    | none => rfl
    | some entry =>
      rw [World.life_of_entry found] at same
      simp [tag, same]
  · rfl

theorem state (same : SameTables world next) (id : EntryId) :
    (next.life id).state = (world.life id).state := by
  have tags := same.tags id
  unfold World.life
  cases found : world.entry? id <;> cases kept : next.entry? id <;>
    simp_all [tag]

theorem idle (same : SameTables world next) (idle : Idle world) : Idle next :=
  fun id => (same.state id).trans (idle id)

end SameTables

namespace Steady

variable {α β : Type} {world : World Kept Empty}

theorem pure (result : α) : Steady (Pure.pure result) world :=
  ⟨result, world, rfl, .refl world⟩

theorem of_change {change : World Kept Empty → World Kept Empty}
    (same : SameTables world (change world)) :
    Steady (modify change : RegistryM Unit) world :=
  ⟨(), change world, rfl, same⟩

theorem bind {first : RegistryM α} {then? : α → RegistryM β} (one : Steady first world)
    (two : ∀ result next, first world = (.ok result, next) → SameTables world next →
      Steady (then? result) next) : Steady (first >>= then?) world := by
  obtain ⟨result, next, ran, same⟩ := one
  obtain ⟨final, last, finished, rest⟩ := two result next ran same
  exact ⟨final, last, (bind_of_ok ran).trans finished, same.trans rest⟩

theorem andThen {first : RegistryM α} {then? : α → RegistryM β} (one : Steady first world)
    (two : ∀ result next, Steady (then? result) next) : Steady (first >>= then?) world :=
  one.bind fun result next _ _ => two result next

theorem note (notice : Notice) : Steady (TransportBridge.note notice) world :=
  of_change ⟨rfl, rfl, rfl, fun _ => rfl⟩

theorem count (change : Metrics → Metrics) :
    Steady (TransportBridge.count .own change) world :=
  of_change ⟨rfl, rfl, rfl, fun _ => rfl⟩

theorem forM {items : List α} {body : α → RegistryM Unit}
    (each : ∀ item world, Steady (body item) world) : Steady (items.forM body) world := by
  induction items generalizing world with
  | nil => exact .pure ()
  | cons item rest inductionHypothesis =>
    exact (each item world).bind fun _ _ _ _ => inductionHypothesis

theorem dropBuffer (buffer : NativeBuffer Hook) :
    Steady (TransportBridge.dropBuffer buffer) world :=
  forM fun _ _ => of_change ⟨rfl, rfl, rfl, fun _ => rfl⟩

theorem abandon (id : EntryId) : Steady (change id Lifecycle.abandon) world :=
  ⟨_, _, rfl, .setLife rfl⟩

/-- The drill's targets know nothing to forget. -/
theorem forgetTarget (target : TargetId) :
    (Custody.forgetTarget target : RegistryM (Option EntryId)) world = (.ok none, world) := by
  unfold Custody.forgetTarget
  split <;> rfl

theorem letGo (id : EntryId) : Steady (Custody.letGo id) world := by
  show Steady (Custody.letGoWithin (world.entries.size + 1) id) world
  unfold Custody.letGoWithin
  refine Steady.bind ⟨world, world, rfl, .refl world⟩ fun seen _ _ _ => ?_
  split
  · exact .pure ()
  · refine (abandon id).andThen fun given _ => ?_
    refine (forM fun buffer _ => dropBuffer buffer).andThen fun _ next => ?_
    cases given.2 with
    | none => exact .pure ()
    | some target => exact ⟨(), next, bind_of_ok (forgetTarget target), .refl next⟩

theorem report (error : BridgeError) : Steady (References.report .own error) world := by
  unfold References.report
  split
  · exact (count _).andThen fun _ _ => (note _).andThen fun _ _ => .pure error
  · exact (note _).andThen fun _ _ => .pure error

/-- A step that keeps the state, and what is done with its result; or a refusal. -/
theorem checkedBind {γ : Type} {peer : Peer} {step : Lifecycle → Lifecycle.Step α}
    {rest : α → Call Kept Empty γ}
    (granted : ∀ result next, step (world.life peer.entry) = .ok (result, next) →
      next.state = (world.life peer.entry).state ∧
        Steady (rest result).run (world.setLife peer.entry next)) :
    Steady (References.checked .own peer step >>= rest).run world := by
  cases taken : step (world.life peer.entry) with
  | ok outcome =>
    have ran : attempt peer.entry step world =
        (.ok (.ok outcome.1), world.setLife peer.entry outcome.2) := by
      unfold attempt
      rw [taken]
    have passed : References.checked .own peer step world =
        (.ok (.ok outcome.1), world.setLife peer.entry outcome.2) := effectBind_of_ok ran
    obtain ⟨state, result, next, finished, same⟩ := granted _ _ taken
    exact ⟨result, next, (callBind_of_ok passed).trans finished,
      (SameTables.setLife state).trans same⟩
  | error refusal =>
    have ran : attempt peer.entry step world = (.ok (.error refusal), world) := by
      unfold attempt
      rw [taken]
    obtain ⟨error, next, reported, same⟩ : Steady _ world :=
      report (refusal.toError peer.handle)
    exact ⟨.error error, next,
      callBind_of_rejected ((effectBind_of_ok ran).trans (effectBind_of_ok reported)), same⟩

theorem retain (peer : Peer) : Steady (References.retain .own peer).run world := by
  have kept : Steady (References.checked .own peer Lifecycle.retain >>= Pure.pure).run world := by
    refine checkedBind fun count next taken => ⟨?_, .pure _⟩
    unfold Lifecycle.retain at taken
    split at taken
    · cases taken
    · cases taken
    · cases taken
      rfl
  rwa [bind_pure] at kept

/-- Where nothing is closed, no release is the last one. -/
theorem release (idle : Idle world) (peer : Peer) :
    Steady (References.release .own peer).run world := by
  refine checkedBind fun remains next taken => ?_
  unfold Lifecycle.release at taken
  split at taken
  · cases taken
  · split at taken
    · cases taken
    · simp only [Lifecycle.tryTeardown, idle peer.entry, ne_eq, reduceCtorEq, not_false_eq_true,
        or_true, if_true] at taken
      cases taken
      exact ⟨(idle peer.entry).symm, .pure _⟩

theorem releaseNative (idle : Idle world) (peer : Peer) :
    Steady (References.releaseNative .own peer).run world := by
  refine checkedBind fun remains next taken => ?_
  unfold Lifecycle.releaseNative at taken
  split at taken
  · cases taken
  · simp only [idle peer.entry, ne_eq, reduceCtorEq, not_false_eq_true, if_true] at taken
    cases taken

theorem settle {call : Call Kept Empty α} (steady : Steady call.run world)
    (answer : α → RegistryAnswer) : Steady (Drill.settle call answer) world := by
  refine steady.andThen fun outcome _ => ?_
  cases outcome <;> exact .pure _

theorem withKept {body : Peer → RegistryM RegistryAnswer} (handle : Handle)
    (each : ∀ peer, Steady (body peer) world) : Steady (Drill.withKept handle body) world := by
  unfold Drill.withKept
  refine Steady.bind ⟨world, world, rfl, .refl world⟩ fun seen after ran _ => ?_
  cases ran
  split
  · exact each _
  · exact .pure _

end Steady

/-- The operation may make a registration, free a handle, or drop a pin. -/
def RegistryOp.acts : RegistryOp → Bool
  | .register _ | .unregister _ | .dropPin _ => true
  | _ => false

/-- All others look something up, or count references. -/
theorem perform_steady {world : World Kept Empty} (idle : Idle world) {op : RegistryOp}
    (inert : op.acts = false) : Steady op.perform world := by
  have looks : ∀ answer : World Kept Empty → RegistryAnswer,
      Steady (do return answer (← get)) world :=
    fun answer => ⟨answer world, world, rfl, .refl world⟩
  cases op with
  | register | unregister | dropPin => cases inert
  | lookup handle => exact looks _
  | lookupTarget handle => exact looks _
  | contains handle => exact looks _
  | size => exact looks _
  | inspectPin handle => exact looks _
  | entryTarget handle => exact .withKept handle fun _ => looks _
  | inspect handle => exact .withKept handle fun _ => looks _
  | retain handle => exact .withKept handle fun peer => .settle (.retain peer) _
  | release handle => exact .withKept handle fun peer => .settle (.release idle peer) _
  | releaseNative handle => exact .withKept handle fun peer => .settle (.releaseNative idle peer) _

/-! ## What the others do -/

theorem register_of_contains {world : World Kept Empty} {handle : Handle}
    (bound : world.own.registry.contains handle = true) :
    (RegistryOp.register handle).perform world =
      (.ok (.failed (.duplicateHandle handle)), world) := by
  have refused : world.own.registry.insert? handle ⟨world.entries.size⟩ = none :=
    (Registry.insert?_eq_none_iff ..).mpr bound
  have ran : bind? handle ⟨world.entries.size⟩ world = (.ok none, world) := by
    simp only [bind?, refused]
  exact bind_of_ok ran

/-- A registration that is made: its entry is the next one, and its pin is kept. -/
def enrolled (world : World Kept Empty) (registry : Registry) (handle : Handle) :
    World Kept Empty :=
  { world with
    own := { world.own with registry }
    entries := world.entries.push ⟨handle, ⟨world.entries.size⟩, {}⟩
    host := keepEntry world.host ⟨⟨world.entries.size⟩, handle⟩ ⟨world.entries.size⟩ }

theorem entry?_enrolled (world : World Kept Empty) (registry : Registry) (handle : Handle)
    (id : EntryId) :
    World.entry? (enrolled world registry handle) id =
      if id.index = world.entries.size then some ⟨handle, ⟨world.entries.size⟩, {}⟩
      else world.entry? id :=
  Array.getElem?_push

theorem register_of_insert? {world : World Kept Empty} {handle : Handle} {registry : Registry}
    (inserted : world.own.registry.insert? handle ⟨world.entries.size⟩ = some registry) :
    (RegistryOp.register handle).perform world =
      (.ok (.registered handle {}), enrolled world registry handle) := by
  have entry : World.entry? (enrolled world registry handle) ⟨world.entries.size⟩ =
      some ⟨handle, ⟨world.entries.size⟩, {}⟩ := by
    rw [entry?_enrolled, if_pos rfl]
  have life : (enrolled world registry handle).life ⟨world.entries.size⟩ = {} :=
    World.life_of_entry entry
  have ran : bind? handle ⟨world.entries.size⟩ world =
      (.ok (some ⟨⟨world.entries.size⟩, handle⟩), { world with
        own := { world.own with registry }
        entries := world.entries.push ⟨handle, ⟨world.entries.size⟩, {}⟩ }) := by
    simp only [bind?, inserted]
  refine (bind_of_ok ran).trans ?_
  show (Except.ok (RegistryAnswer.registered handle
    ((enrolled world registry handle).life ⟨world.entries.size⟩)),
      enrolled world registry handle) = _
  rw [life]

/-- The handle stands for nothing after that, and nothing else is different. -/
theorem unregister_frees (world : World Kept Empty) (handle : Handle) :
    ∃ answer next, (RegistryOp.unregister handle).perform world = (.ok answer, next) ∧
      SameTables { world with
        own := { world.own with registry := world.own.registry.erase handle } } next := by
  have unbound : unbind .own handle world = (.ok (world.own.registry.lookup? handle),
    { world with own := { world.own with registry := world.own.registry.erase handle } }) := rfl
  cases found : world.own.registry.lookup? handle with
  | none =>
    rw [found] at unbound
    exact ⟨_, _, bind_of_ok (bind_of_ok unbound), .refl _⟩
  | some entry =>
    rw [found] at unbound
    obtain ⟨_, next, ran, same⟩ : Steady _ { world with
        own := { world.own with registry := world.own.registry.erase handle } } :=
      Steady.letGo entry
    exact ⟨_, next, bind_of_ok ((bind_of_ok unbound).trans (bind_of_ok ran)), same⟩

theorem dropPinOf_eq (handle : Handle) (world : World Kept Empty) :
    (RegistryOp.dropPin handle).perform world =
      (.ok (.flag (world.host.pins.any (·.1 = handle))), { world with
        host := { world.host with pins := world.host.pins.eraseP (·.1 = handle) } }) :=
  rfl

theorem unpin_eq (target : TargetId) (world : World Kept Empty) :
    (RegistryMove.unpin target).run world =
      (.ok (.flag (world.host.pins.any (·.2 = target))), { world with
        host := { world.host with pins := world.host.pins.eraseP (·.2 = target) } }) :=
  rfl

/-- Pins of different targets: one of them less. -/
theorem mem_eraseP_iff {pins : List (Handle × TargetId)} {chosen : Handle × TargetId → Bool}
    {pin : Handle × TargetId} (distinct : (pins.map (·.2)).Nodup)
    (found : pins.find? chosen = some pin) (target : TargetId) :
    target ∈ (pins.eraseP chosen).map (·.2) ↔ target ∈ pins.map (·.2) ∧ target ≠ pin.2 := by
  obtain ⟨held, before, later, rfl, passed⟩ := List.find?_eq_some_iff_append.mp found
  have erased : (before ++ pin :: later).eraseP chosen = before ++ later := by
    rw [List.eraseP_append_right _ (fun other member => by simpa using passed other member),
      List.eraseP_cons_of_pos held]
  have fresh : pin.2 ∉ (before ++ later).map (·.2) := by
    rw [List.map_append, List.map_cons, List.nodup_middle, ← List.map_append] at distinct
    exact (List.nodup_cons.mp distinct).1
  rw [erased]
  constructor
  · intro member
    refine ⟨?_, fun same => fresh (same ▸ member)⟩
    rw [List.map_append] at member
    rw [List.map_append, List.map_cons, List.mem_append, List.mem_cons]
    rcases List.mem_append.mp member with front | back
    · exact .inl front
    · exact .inr (.inr back)
  · rintro ⟨member, different⟩
    rw [List.map_append, List.map_cons, List.mem_append, List.mem_cons] at member
    rw [List.map_append, List.mem_append]
    rcases member with front | same | back
    · exact .inl front
    · exact absurd same different
    · exact .inr back

/-! ## The invariant -/

namespace Chronicle

/-- What the tables of a drill have to do with all that has come of it. -/
structure Sound (chronicle : Chronicle) : Prop where
  idle : Idle chronicle.world
  /-- Entries are never taken away, and say for whom they were made. -/
  registered : ∀ peer target, .registered peer target ∈ chronicle.deeds →
    target = ⟨peer.entry.index⟩ ∧
      (chronicle.world.entry? peer.entry).map tag = some (peer.handle, target, .created)
  /-- No pin was dropped that is still to come. -/
  unpinned : ∀ target, .unpinned target ∈ chronicle.deeds →
    target.index < chronicle.world.entries.size
  standing : ∀ handle entry, chronicle.world.own.registry.lookup? handle = some entry ↔
    ∃ target, Standing chronicle.deeds ⟨entry, handle⟩ target
  pinned : ∀ target, target ∈ chronicle.world.host.pins.map (·.2) ↔
    (∃ peer, .registered peer target ∈ chronicle.deeds) ∧ .unpinned target ∉ chronicle.deeds
  distinct : (chronicle.world.host.pins.map (·.2)).Nodup

namespace Sound

variable {world next : World Kept Empty} {deeds : List RegistryDeed} {handle : Handle}

theorem fresh : Sound {} where
  idle _ := rfl
  registered _ _ member := absurd member List.not_mem_nil
  unpinned _ member := absurd member List.not_mem_nil
  standing handle entry := by
    constructor
    · intro found
      cases found
    · rintro ⟨target, standing⟩
      exact absurd standing (not_standing_nil _ target)
  pinned target := by simp
  distinct := List.nodup_nil

theorem index_lt (sound : Sound ⟨world, deeds⟩) {peer : Peer} {target : TargetId}
    (registered : .registered peer target ∈ deeds) : target.index < world.entries.size := by
  obtain ⟨rfl, found⟩ := sound.registered peer target registered
  obtain ⟨entry, present, -⟩ := Option.map_eq_some_iff.mp found
  exact (Array.getElem?_eq_some_iff.mp present).1

theorem of_same (sound : Sound ⟨world, deeds⟩) (same : SameTables world next) :
    Sound ⟨next, deeds⟩ where
  idle := same.idle sound.idle
  registered peer target member := by
    rw [same.tags]
    exact sound.registered peer target member
  unpinned target member := by
    rw [same.size]
    exact sound.unpinned target member
  standing handle entry := by
    rw [same.registry]
    exact sound.standing handle entry
  pinned target := by
    rw [same.host]
    exact sound.pinned target
  distinct := by
    rw [same.host]
    exact sound.distinct

theorem register (sound : Sound ⟨world, deeds⟩) {registry : Registry}
    (inserted : world.own.registry.insert? handle ⟨world.entries.size⟩ = some registry) :
    Sound ⟨enrolled world registry handle, deeds ++
      [.registered ⟨⟨world.entries.size⟩, handle⟩ ⟨world.entries.size⟩]⟩ where
  idle id := by
    have before := sound.idle id
    unfold World.life at before ⊢
    rw [entry?_enrolled]
    split
    · next found =>
      split at found
      · cases found
        rfl
      · rw [found] at before
        exact before
    · rfl
  registered peer target member := by
    rcases List.mem_append.mp member with earlier | last
    · have bound : target.index < world.entries.size := sound.index_lt earlier
      obtain ⟨rfl, found⟩ := sound.registered peer target earlier
      rw [entry?_enrolled, if_neg (Nat.ne_of_lt bound)]
      exact ⟨rfl, found⟩
    · cases List.mem_singleton.mp last
      rw [entry?_enrolled, if_pos rfl]
      exact ⟨rfl, rfl⟩
  unpinned target member := by
    have earlier : .unpinned target ∈ deeds := by simpa using member
    have bound := sound.unpinned target earlier
    have size : (enrolled world registry handle).entries.size = world.entries.size + 1 :=
      Array.size_push _
    exact size ▸ Nat.lt_succ_of_lt bound
  standing other entry := by
    have found : (enrolled world registry handle).own.registry.lookup? other =
        if other = handle then some ⟨world.entries.size⟩ else world.own.registry.lookup? other :=
      Registry.lookup?_of_insert? inserted other
    rw [found]
    simp only [standing_concat_iff, RegistryDeed.IsAbout]
    by_cases same : other = handle
    · subst same
      simp [eq_comm]
    · rw [if_neg same, sound.standing other entry]
      have different : handle ≠ other := fun equal => same equal.symm
      simp [different]
  pinned target := by
    have pins : (enrolled world registry handle).host.pins.map (·.2) =
        ⟨world.entries.size⟩ :: world.host.pins.map (·.2) := rfl
    rw [pins, List.mem_cons, sound.pinned target]
    constructor
    · rintro (rfl | ⟨⟨peer, member⟩, held⟩)
      · refine ⟨⟨_, List.mem_append_right deeds (List.mem_singleton.mpr rfl)⟩, fun member => ?_⟩
        have earlier : .unpinned ⟨world.entries.size⟩ ∈ deeds := by simpa using member
        exact Nat.lt_irrefl _ (sound.unpinned _ earlier)
      · exact ⟨⟨peer, List.mem_append_left _ member⟩, by simpa using held⟩
    · rintro ⟨⟨peer, member⟩, held⟩
      rcases List.mem_append.mp member with earlier | last
      · exact .inr ⟨⟨peer, earlier⟩, fun dropped => held (List.mem_append_left _ dropped)⟩
      · cases List.mem_singleton.mp last
        exact .inl rfl
  distinct := by
    refine List.nodup_cons.mpr ⟨fun member => ?_, sound.distinct⟩
    obtain ⟨⟨peer, earlier⟩, -⟩ := (sound.pinned ⟨world.entries.size⟩).mp member
    exact Nat.lt_irrefl _ (sound.index_lt earlier)

theorem unregister (sound : Sound ⟨world, deeds⟩) (handle : Handle) :
    Sound ⟨{ world with
      own := { world.own with registry := world.own.registry.erase handle } },
      deeds ++ [.unregistered handle]⟩ where
  idle := sound.idle
  registered peer target member := sound.registered peer target (by simpa using member)
  unpinned target member := sound.unpinned target (by simpa using member)
  standing other entry := by
    show (world.own.registry.erase handle).lookup? other = some entry ↔ _
    rw [Registry.lookup?_erase]
    simp only [standing_concat_iff, RegistryDeed.IsAbout]
    by_cases same : other = handle
    · simp [same]
    · rw [if_neg same, sound.standing other entry]
      have different : handle ≠ other := fun equal => same equal.symm
      simp [different]
  pinned target := by
    rw [sound.pinned target]
    simp
  distinct := sound.distinct

theorem unpin (sound : Sound ⟨world, deeds⟩) {chosen : Handle × TargetId → Bool}
    {pin : Handle × TargetId} (found : world.host.pins.find? chosen = some pin) :
    Sound ⟨{ world with host := { world.host with pins := world.host.pins.eraseP chosen } },
      deeds ++ [.unpinned pin.2]⟩ where
  idle := sound.idle
  registered peer target member := sound.registered peer target (by simpa using member)
  unpinned target member := by
    rcases List.mem_append.mp member with earlier | last
    · exact sound.unpinned target earlier
    · cases List.mem_singleton.mp last
      have held : pin.2 ∈ world.host.pins.map (·.2) :=
        List.mem_map_of_mem (List.mem_of_find?_eq_some found)
      obtain ⟨⟨peer, registered⟩, -⟩ := (sound.pinned pin.2).mp held
      exact sound.index_lt registered
  standing other entry := by
    rw [sound.standing other entry]
    simp [standing_concat_iff, RegistryDeed.IsAbout]
  pinned target := by
    rw [mem_eraseP_iff sound.distinct found, sound.pinned target]
    simp [and_assoc]
  distinct := sound.distinct.sublist (List.eraseP_sublist.map _)

/-- Without a pin to drop, dropping one changes nothing. -/
theorem eraseP_of_find?_none {chosen : Handle × TargetId → Bool}
    (none : world.host.pins.find? chosen = none) :
    { world with host := { world.host with pins := world.host.pins.eraseP chosen } } = world := by
  have untouched : world.host.pins.eraseP chosen = world.host.pins :=
    List.eraseP_of_forall_not (List.find?_eq_none.mp none)
  rw [untouched]

/-- The first pin that is chosen goes, if there is one. -/
theorem drops {chronicle : Chronicle} (sound : chronicle.Sound) {move : RegistryMove}
    {chosen : Handle × TargetId → Bool} {answer : RegistryAnswer}
    (ran : move.run chronicle.world = (.ok answer, { chronicle.world with
      host := { chronicle.world.host with pins := chronicle.world.host.pins.eraseP chosen } }))
    (told : move.deed? chronicle.world answer =
      (chronicle.world.host.pins.find? chosen).map fun pin => .unpinned pin.2) :
    (chronicle.after move).Sound := by
  rw [after_of_ran ran, told]
  cases found : chronicle.world.host.pins.find? chosen with
  | none =>
    rw [eraseP_of_find?_none found]
    simpa using sound
  | some pin => exact sound.unpin found

theorem performs {chronicle : Chronicle} (sound : chronicle.Sound) (op : RegistryOp) :
    (chronicle.after (.perform op)).Sound := by
  by_cases inert : op.acts = false
  · obtain ⟨answer, next, ran, same⟩ := perform_steady sound.idle inert
    have nothing : (RegistryMove.perform op).deed? chronicle.world answer = none := by
      cases op <;> first | rfl | cases inert
    rw [after_perform ran, nothing, Option.toList_none, List.append_nil]
    exact sound.of_same same
  · cases op with
    | register handle =>
      cases inserted :
          chronicle.world.own.registry.insert? handle ⟨chronicle.world.entries.size⟩ with
      | none =>
        have bound := (Registry.insert?_eq_none_iff ..).mp inserted
        rw [after_perform (register_of_contains bound)]
        simpa [RegistryMove.deed?] using sound
      | some registry =>
        rw [after_perform (register_of_insert? inserted)]
        exact sound.register inserted
    | unregister handle =>
      obtain ⟨answer, next, ran, same⟩ := unregister_frees chronicle.world handle
      rw [after_perform ran]
      exact (sound.unregister handle).of_same same
    | dropPin handle => exact sound.drops (dropPinOf_eq handle chronicle.world) rfl
    | _ => exact absurd rfl inert

/-- One operation more. -/
theorem after {chronicle : Chronicle} (sound : chronicle.Sound) (move : RegistryMove) :
    (chronicle.after move).Sound := by
  cases move with
  | perform op => exact sound.performs op
  | unpin target => exact sound.drops (unpin_eq target chronicle.world) rfl

end Sound

theorem sound_ofMoves (moves : List RegistryMove) : (ofMoves moves).Sound := by
  induction moves using List.reverseRecOn with
  | nil => exact .fresh
  | append_singleton earlier move inductionHypothesis =>
    rw [ofMoves, List.foldl_append]
    exact inductionHypothesis.after move

namespace Sound

variable {world : World Kept Empty} {deeds : List RegistryDeed}

theorem contains_iff (sound : Sound ⟨world, deeds⟩) (handle : Handle) :
    world.own.registry.contains handle = true ↔ Present deeds handle := by
  rw [Registry.contains_eq_isSome_lookup?, Option.isSome_iff_exists]
  exact exists_congr fun entry => sound.standing handle entry

theorem insert?_of_not_present (sound : Sound ⟨world, deeds⟩) {handle : Handle}
    (absent : ¬Present deeds handle) :
    ∃ registry, world.own.registry.insert? handle ⟨world.entries.size⟩ = some registry := by
  refine Option.ne_none_iff_exists'.mp fun refused => absent ?_
  exact (sound.contains_iff handle).mp ((Registry.insert?_eq_none_iff ..).mp refused)

theorem answers (sound : Sound ⟨world, deeds⟩) (move : RegistryMove) :
    ∃ answer, (move.run world).1 = .ok answer := by
  have answered : ∀ {op : RegistryOp} {answer : RegistryAnswer} {next : World Kept Empty},
      op.perform world = (.ok answer, next) →
        ∃ answer, ((RegistryMove.perform op).run world).1 = .ok answer :=
    fun {_ answer _} ran => ⟨answer, congrArg Prod.fst ran⟩
  cases move with
  | unpin target => exact ⟨_, congrArg Prod.fst (unpin_eq target world)⟩
  | perform op =>
    by_cases inert : op.acts = false
    · obtain ⟨answer, next, ran, -⟩ := perform_steady sound.idle inert
      exact answered ran
    · cases op with
      | register handle =>
        by_cases present : Present deeds handle
        · exact answered (register_of_contains ((sound.contains_iff handle).mpr present))
        · obtain ⟨registry, inserted⟩ := sound.insert?_of_not_present present
          exact answered (register_of_insert? inserted)
      | unregister handle =>
        obtain ⟨answer, next, ran, -⟩ := unregister_frees world handle
        exact answered ran
      | dropPin handle => exact answered (dropPinOf_eq handle world)
      | _ => exact absurd rfl inert

theorem owners (sound : Sound ⟨world, deeds⟩) {peer other : Peer} {target twin : TargetId}
    (one : .registered peer target ∈ deeds) (two : .registered other twin ∈ deeds)
    (same : peer.entry = other.entry ∨ target = twin) : peer = other ∧ target = twin := by
  obtain ⟨rfl, found⟩ := sound.registered peer target one
  obtain ⟨rfl, present⟩ := sound.registered other twin two
  have entries : peer.entry = other.entry := by
    rcases same with same | named
    · exact same
    · obtain ⟨⟨_⟩, _⟩ := peer
      obtain ⟨⟨_⟩, _⟩ := other
      cases named
      rfl
  rw [entries] at found ⊢
  obtain ⟨handles, -⟩ := Prod.mk.inj (Option.some.inj (found.symm.trans present))
  refine ⟨?_, rfl⟩
  obtain ⟨_, _⟩ := peer
  cases entries
  cases handles
  rfl

theorem targetOf?_eq (sound : Sound ⟨world, deeds⟩) {peer : Peer} {target : TargetId}
    (registered : .registered peer target ∈ deeds) :
    targetOf? world peer.entry = if .unpinned target ∈ deeds then none else some target := by
  obtain ⟨-, found⟩ := sound.registered peer target registered
  obtain ⟨entry, present, tagged⟩ := Option.map_eq_some_iff.mp found
  obtain rfl : entry.target = target := congrArg (·.2.1) tagged
  have held : world.host.pins.any (·.2 = entry.target) = true ↔
      .unpinned entry.target ∉ deeds := by
    rw [List.any_eq_true]
    have pinned := sound.pinned entry.target
    rw [List.mem_map] at pinned
    simp only [decide_eq_true_eq]
    rw [pinned]
    exact and_iff_right ⟨peer, registered⟩
  unfold targetOf?
  rw [present, Option.bind_some]
  by_cases dropped : .unpinned entry.target ∈ deeds
  · rw [if_pos dropped, if_neg fun pinned => held.mp pinned dropped]
  · rw [if_neg dropped, if_pos (held.mpr dropped)]

theorem lookupTarget?_eq_some_iff (sound : Sound ⟨world, deeds⟩) (handle : Handle)
    (target : TargetId) :
    lookupTarget? world handle = some target ↔
      (∃ entry, Standing deeds ⟨entry, handle⟩ target) ∧ .unpinned target ∉ deeds := by
  have reached : ∀ {entry own}, Standing deeds ⟨entry, handle⟩ own →
      (targetOf? world entry = some target ↔ own = target ∧ .unpinned own ∉ deeds) := by
    intro entry own standing
    rw [sound.targetOf?_eq standing.mem]
    split <;> simp [*]
  unfold lookupTarget?
  rw [Option.bind_eq_some_iff]
  constructor
  · rintro ⟨entry, found, reaches⟩
    obtain ⟨own, standing⟩ := (sound.standing handle entry).mp found
    obtain ⟨rfl, held⟩ := (reached standing).mp reaches
    exact ⟨⟨entry, standing⟩, held⟩
  · rintro ⟨⟨entry, standing⟩, held⟩
    exact ⟨entry, (sound.standing handle entry).mpr ⟨target, standing⟩,
      (reached standing).mpr ⟨rfl, held⟩⟩

theorem size_eq_ncard (sound : Sound ⟨world, deeds⟩) :
    world.own.registry.size = {handle | Present deeds handle}.ncard := by
  have handles : {handle | Present deeds handle} =
      ((world.own.registry.bindings.map (·.1)).toFinset : Set Handle) := by
    ext handle
    rw [Set.mem_ofPred_eq, ← sound.contains_iff handle, Registry.contains]
    simp
  rw [handles, Set.ncard_coe_finset, List.toFinset_card_of_nodup world.own.registry.distinct,
    List.length_map]
  rfl

end Sound

end Chronicle

theorem isPinned_eq (world : World Kept Empty) (entry : EntryId) :
    isPinned world entry = (targetOf? world entry).isSome := by
  unfold isPinned targetOf?
  cases world.entry? entry with
  | none => rfl
  | some entry =>
    rw [Option.any_some, Option.bind_some]
    cases world.host.pins.any (·.2 = entry.target) <;> rfl

theorem perform_lookupTarget (world : World Kept Empty) (handle : Handle) :
    (RegistryOp.lookupTarget handle).perform world =
      (.ok (.flag (lookupTarget? world handle).isSome), world) := by
  have looked : (world.own.registry.lookup? handle).any (isPinned world) =
      (lookupTarget? world handle).isSome := by
    unfold lookupTarget?
    cases world.own.registry.lookup? handle with
    | none => rfl
    | some entry => exact isPinned_eq world entry
  rw [← looked]
  rfl

/-- After any operations, the registry is the map that these tell of, with
targets that are reached while their pins last. -/
theorem registry_exact (moves : List RegistryMove) :
    ExactMap (Chronicle.ofMoves moves).deeds (Chronicle.ofMoves moves).world := by
  have sound : (Chronicle.ofMoves moves).Sound := Chronicle.sound_ofMoves moves
  generalize Chronicle.ofMoves moves = chronicle at sound
  obtain ⟨world, deeds⟩ := chronicle
  have registers : ∀ handle, ¬Present deeds handle →
      (RegistryOp.perform (.register handle) world).1 = .ok (.registered handle {}) := by
    intro handle absent
    obtain ⟨registry, inserted⟩ := sound.insert?_of_not_present absent
    rw [register_of_insert? inserted]
  have refuses : ∀ handle, Present deeds handle →
      RegistryOp.perform (.register handle) world =
        (.ok (.failed (.duplicateHandle handle)), world) :=
    fun handle present => register_of_contains ((sound.contains_iff handle).mpr present)
  exact {
    answers := sound.answers
    distinct := fun _ _ _ _ => sound.owners
    refuses := by
      intro handle
      constructor
      · intro failed
        by_contra absent
        rw [registers handle absent] at failed
        cases failed
      · intro present
        rw [refuses handle present]
    refused := by
      intro handle present
      rw [refuses handle present]
    registers
    lookup := sound.standing
    contains := sound.contains_iff
    lookupTarget := sound.lookupTarget?_eq_some_iff
    entryTarget := fun _ _ => sound.targetOf?_eq
    size := sound.size_eq_ncard
    pinned := isPinned_eq world
    flags := perform_lookupTarget world }

/-- The pin of an earlier registration goes while a later one of the same handle
stands, which keeps its own target. -/
example :
    let handle : Handle := ⟨1, by decide⟩
    let chronicle := Chronicle.ofMoves [.perform (.register handle),
      .perform (.unregister handle), .perform (.register handle), .unpin ⟨0⟩]
    chronicle.deeds = [.registered ⟨⟨0⟩, handle⟩ ⟨0⟩, .unregistered handle,
        .registered ⟨⟨1⟩, handle⟩ ⟨1⟩, .unpinned ⟨0⟩] ∧
      targetOf? chronicle.world ⟨0⟩ = none ∧
      lookupTarget? chronicle.world handle = some ⟨1⟩ := by
  decide

end TransportBridge.Drill
