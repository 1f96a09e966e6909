import TransportBridge.Proofs.Acceptance
import TransportBridge.Proofs.Effects

/-!
Contract: the books of a bridge, and what holds of them at any time.

The books are the entries, the registry, the counters of registrations and
disposals, the deeds, and the lapses, which are all that has come out of books
that are wrong.

Owns: changes that the books do not tell of, and soundness, which is kept by
the few changes that the books do tell of.
-/

namespace TransportBridge

/-! ## Lapses -/

/-- The log tells of books that are wrong, by an error or by a teardown of a
handle that is not bound. -/
def Notice.isLapse : Notice → Bool
  | .invariantViolated error | .callRejected error | .outboundUnregistered _ error
  | .eventDropped _ _ error | .placeholderUsed error => error.isLapse
  | .teardownUnregistered _ => true
  | _ => false

/-- A caller is told of books that are wrong. -/
def Reply.isLapse : Reply → Bool
  | .rejected error => error.isLapse
  | _ => false

def Moment.isLapse : Moment Mark → Bool
  | .noted notice => notice.isLapse
  | .marked (.replied _ reply) => reply.isLapse
  | _ => false

namespace World

variable {σ : Type} {world after : World σ Mark} {peer : Peer}

/-- What has come out of books that are wrong. -/
def lapses (world : World σ Mark) : List (Moment Mark) :=
  world.trace.toList.filter Moment.isLapse

theorem lapses_push (world : World σ Mark) {moment : Moment Mark}
    (noLapse : moment.isLapse = false) : (world.push moment).lapses = world.lapses := by
  unfold lapses push
  rw [Array.toList_push, List.filter_append, List.filter_cons_of_neg (by simp [noLapse])]
  exact List.append_nil _

/-! ### Changes of the books -/

/-- The connection is one of the registration that it names. -/
def Genuine (world : World σ Mark) (peer : Peer) : Prop :=
  ∃ entry, world.entry? peer.entry = some entry ∧ entry.handle = peer.handle

/-- Nothing happens that the books tell of, and no lapse of theirs is noted. -/
structure Plain (before after : World σ Mark) : Prop where
  config : after.config = before.config
  entries : after.entries = before.entries
  registry : after.own.registry = before.own.registry
  registered : after.own.metrics.registered = before.own.metrics.registered
  disposed : after.own.metrics.disposed = before.own.metrics.disposed
  deeds : ∀ id, after.deeds id = before.deeds id
  lapses : after.lapses = before.lapses

/-- A new entry, whose handle is bound in `registry`, and which holds its
target. -/
def enrolled (world : World σ Mark) (registry : Registry) (handle : Handle)
    (target : TargetId) : World σ Mark :=
  { world with
    own := { registry, metrics := world.own.metrics.countRegistered }
    entries := world.entries.push ⟨handle, target, { pin := some target }⟩ }

/-- A handle is freed, and its disposal counted. -/
def freed (world : World σ Mark) (handle : Handle) : World σ Mark :=
  { world with
    own := {
      registry := world.own.registry.erase handle
      metrics := world.own.metrics.countDisposed } }

/-- A reference has been given up, and the handle with it if it was the
last. -/
def concluded (world : World σ Mark) (peer : Peer) (outcome : Option Teardown × Lifecycle) :
    World σ Mark :=
  match outcome with
  | (none, next) => world.setLife peer.entry next
  | (some _, next) => (world.setLife peer.entry next).freed peer.handle

namespace Plain

/-- Whatever is not in the books may change. -/
theorem aside (config : after.config = world.config)
    (entries : after.entries = world.entries) (own : after.own = world.own)
    (trace : after.trace = world.trace) : Plain world after where
  config := config
  entries := entries
  registry := by rw [own]
  registered := by rw [own]
  disposed := by rw [own]
  deeds _ := by
    unfold World.deeds
    rw [trace]
  lapses := by
    unfold World.lapses
    rw [trace]

theorem refl (world : World σ Mark) : Plain world world :=
  .aside rfl rfl rfl rfl

theorem trans {first second third : World σ Mark} (one : Plain first second)
    (two : Plain second third) : Plain first third where
  config := two.config.trans one.config
  entries := two.entries.trans one.entries
  registry := two.registry.trans one.registry
  registered := two.registered.trans one.registered
  disposed := two.disposed.trans one.disposed
  deeds id := (two.deeds id).trans (one.deeds id)
  lapses := two.lapses.trans one.lapses

theorem found (plain : Plain world after) (id : EntryId) : after.entry? id = world.entry? id := by
  unfold World.entry?
  rw [plain.entries]

theorem life (plain : Plain world after) (id : EntryId) : after.life id = world.life id := by
  unfold World.life
  rw [plain.found]

theorem genuine (plain : Plain world after) (genuine : world.Genuine peer) :
    after.Genuine peer := by
  unfold Genuine
  rw [plain.found]
  exact genuine

/-- A change of one lifecycle goes with it. -/
theorem setLife (plain : Plain world after) (id : EntryId) (life : Lifecycle) :
    Plain (world.setLife id life) (after.setLife id life) where
  config := plain.config
  entries := by
    unfold World.setLife
    rw [plain.entries]
  registry := plain.registry
  registered := plain.registered
  disposed := plain.disposed
  deeds := plain.deeds
  lapses := plain.lapses

theorem countDisposed (plain : Plain world after) :
    Plain (world.count .own Metrics.countDisposed) (after.count .own Metrics.countDisposed) where
  config := plain.config
  entries := plain.entries
  registry := plain.registry
  registered := plain.registered
  disposed := congrArg (· + 1) plain.disposed
  deeds := plain.deeds
  lapses := plain.lapses

theorem amid (surroundings : Surroundings σ) : Plain world (world.amid surroundings) :=
  aside rfl rfl rfl rfl

theorem push {moment : Moment Mark} (untold : ∀ id, moment.deed? id = none)
    (noLapse : moment.isLapse = false) : Plain world (world.push moment) where
  config := rfl
  entries := rfl
  registry := rfl
  registered := rfl
  disposed := rfl
  deeds id := by rw [deeds_push, untold, Option.toList_none, List.append_nil]
  lapses := lapses_push world noLapse

end Plain

theorem genuine_setLife {id : EntryId} {life : Lifecycle} (genuine : world.Genuine peer) :
    (world.setLife id life).Genuine peer := by
  obtain ⟨entry, found, handle⟩ := genuine
  unfold Genuine
  rw [entry?_setLife]
  split
  · next same =>
      rw [← same, found]
      exact ⟨_, rfl, handle⟩
  · exact ⟨entry, found, handle⟩

theorem entry?_enrolled (world : World σ Mark) (registry : Registry) (handle : Handle)
    (target : TargetId) (id : EntryId) :
    World.entry? (world.enrolled registry handle target) id =
      if id = ⟨world.entries.size⟩ then some ⟨handle, target, { pin := some target }⟩
      else world.entry? id := by
  unfold World.entry? enrolled
  rw [Array.getElem?_push]
  by_cases new : id.index = world.entries.size
  · rw [if_pos new, if_pos (by cases id; simp_all)]
  · rw [if_neg new, if_neg (fun same => new (by rw [same]))]

theorem entry?_new (world : World σ Mark) : world.entry? ⟨world.entries.size⟩ = none :=
  Array.getElem?_eq_none (Nat.le_refl _)

theorem ne_new_of_found {id : EntryId} {entry : Entry} (found : world.entry? id = some entry) :
    id ≠ ⟨world.entries.size⟩ := by
  intro same
  rw [same, entry?_new] at found
  cases found

theorem life_enrolled (world : World σ Mark) (registry : Registry) (handle : Handle)
    (target : TargetId) (id : EntryId) :
    (world.enrolled registry handle target).life id =
      if id = ⟨world.entries.size⟩ then { pin := some target } else world.life id := by
  unfold World.life
  rw [entry?_enrolled]
  by_cases new : id = ⟨world.entries.size⟩
  · rw [if_pos new, if_pos new]
  · rw [if_neg new, if_neg new]

/-- An entry is the one whose lifecycle has changed, or as it was. -/
theorem entry?_setLife_cases {id other : EntryId} {next : Lifecycle} {entry : Entry}
    (found : World.entry? (world.setLife id next) other = some entry) :
    (other = id ∧ ∃ before, world.entry? id = some before ∧ entry = { before with life := next }) ∨
    (other ≠ id ∧ world.entry? other = some entry) := by
  rw [entry?_setLife] at found
  split at found
  · next same =>
      obtain ⟨before, found', rfl⟩ := Option.map_eq_some_iff.mp found
      exact .inl ⟨same, before, found', rfl⟩
  · next different => exact .inr ⟨different, found⟩

/-- An entry is the new one, or was there before. -/
theorem entry?_enrolled_cases {registry : Registry} {handle : Handle} {target : TargetId}
    {id : EntryId} {entry : Entry}
    (found : World.entry? (world.enrolled registry handle target) id = some entry) :
    (id = ⟨world.entries.size⟩ ∧ entry = ⟨handle, target, { pin := some target }⟩) ∨
    (id ≠ ⟨world.entries.size⟩ ∧ world.entry? id = some entry) := by
  rw [entry?_enrolled] at found
  split at found
  · next new => exact .inl ⟨new, (Option.some.inj found).symm⟩
  · next old => exact .inr ⟨old, found⟩

/-! ### Soundness -/

/-- What holds of the books at any time. -/
structure Sound (world : World σ Mark) : Prop where
  /-- A bound handle stands for an entry of that handle. -/
  found {handle : Handle} {id : EntryId} : world.own.registry.lookup? handle = some id →
    ∃ entry, world.entry? id = some entry ∧ entry.handle = handle
  /-- A handle stands for its entry until that is disposed of. -/
  bound {id : EntryId} {entry : Entry} : world.entry? id = some entry →
    (world.own.registry.lookup? entry.handle = some id ↔ entry.life.state ≠ .disposed)
  proper {id : EntryId} {entry : Entry} : world.entry? id = some entry → entry.life.Proper

namespace Sound

theorem life_held (sound : world.Sound) (id : EntryId) : (world.life id).Held := by
  cases found : world.entry? id with
  | none =>
      rw [life_of_absent found]
      exact .fresh
  | some entry =>
      rw [life_of_entry found]
      exact (sound.proper found).held

theorem life_proper (sound : world.Sound) (genuine : world.Genuine peer) :
    (world.life peer.entry).Proper := by
  obtain ⟨entry, found, _⟩ := genuine
  rw [life_of_entry found]
  exact sound.proper found

/-- Soundness is of the entries and the registry. -/
theorem of_same (sound : world.Sound) (entries : after.entries = world.entries)
    (registry : after.own.registry = world.own.registry) : after.Sound := by
  have same : ∀ id, after.entry? id = world.entry? id := by
    intro id
    unfold World.entry?
    rw [entries]
  refine ⟨?_, ?_, ?_⟩
  · intro handle id bound
    rw [registry] at bound
    rw [same]
    exact sound.found bound
  · intro id entry found
    rw [same] at found
    rw [registry]
    exact sound.bound found
  · intro id entry found
    rw [same] at found
    exact sound.proper found

theorem plain (sound : world.Sound) (plain : Plain world after) : after.Sound :=
  sound.of_same plain.entries plain.registry

theorem push (sound : world.Sound) (moment : Moment Mark) : (world.push moment).Sound :=
  sound.of_same rfl rfl

theorem fresh (config : Config) (surroundings : Surroundings σ) :
    (World.fresh config surroundings : World σ Mark).Sound where
  found bound := nomatch bound
  bound found := nomatch found
  proper found := nomatch found

/-- A lifecycle may change while its disposal and its pin do not. -/
theorem setLife (sound : world.Sound) {id : EntryId} {next : Lifecycle}
    (disposed : next.state = .disposed ↔ (world.life id).state = .disposed)
    (spent : next.state = .disposed → next.Spent) (held : next.Held)
    (pin : next.pin = (world.life id).pin) : (world.setLife id next).Sound := by
  refine ⟨?_, ?_, ?_⟩
  · intro handle other bound
    have stands : world.Genuine ⟨other, handle⟩ := sound.found bound
    exact genuine_setLife stands
  · intro other entry found
    rcases entry?_setLife_cases found with ⟨rfl, before, found', rfl⟩ | ⟨_, found'⟩
    · rw [life_of_entry found'] at disposed
      exact (sound.bound found').trans (not_congr disposed.symm)
    · exact sound.bound found'
  · intro other entry found
    rcases entry?_setLife_cases found with ⟨rfl, before, found', rfl⟩ | ⟨_, found'⟩
    · rw [life_of_entry found'] at disposed pin
      exact (sound.proper found').of_same held disposed spent pin
    · exact sound.proper found'

/-- A lifecycle that is not disposed, nor was before. -/
theorem setLife_live (sound : world.Sound) {id : EntryId} {next : Lifecycle}
    (live : (world.life id).state ≠ .disposed) (stays : next.state ≠ .disposed)
    (held : next.Held) (pin : next.pin = (world.life id).pin) : (world.setLife id next).Sound :=
  sound.setLife (iff_of_false stays live) (fun ended => absurd ended stays) held pin

theorem keepsHolds (sound : world.Sound) {id : EntryId} {next : Lifecycle}
    (keeps : (world.life id).KeepsHolds next) : (world.setLife id next).Sound :=
  sound.setLife_live keeps.notDisposed keeps.stays (keeps.held (sound.life_held id)) keeps.pin

/-- A registration that is referred to once more stands as it stood. -/
theorem retained (sound : world.Sound) {id : EntryId} {next : Lifecycle} {count : Nat}
    (taken : (world.life id).retain = .ok (count, next)) : (world.setLife id next).Sound := by
  have held := (sound.life_held id).retain taken
  obtain ⟨live, rfl, _⟩ := Lifecycle.retain_ok taken
  have disposed := SocketState.ne_disposed_of_not_isClosed live
  exact sound.setLife_live disposed disposed held rfl

theorem enrolled (sound : world.Sound) {registry : Registry} {handle : Handle}
    (inserted : world.own.registry.insert? handle ⟨world.entries.size⟩ = some registry)
    (target : TargetId) : (world.enrolled registry handle target).Sound := by
  have lookup : ∀ other, (world.enrolled registry handle target).own.registry.lookup? other =
      if other = handle then some ⟨world.entries.size⟩ else world.own.registry.lookup? other :=
    Registry.lookup?_of_insert? inserted
  have free : world.own.registry.lookup? handle = none := by
    have absent : world.own.registry.contains handle = false := by
      cases present : world.own.registry.contains handle with
      | false => rfl
      | true =>
          rw [(Registry.insert?_eq_none_iff _ _ ⟨world.entries.size⟩).mpr present] at inserted
          cases inserted
    rw [Registry.contains_eq_isSome_lookup?] at absent
    exact Option.not_isSome_iff_eq_none.mp (Bool.eq_false_iff.mp absent)
  refine ⟨?_, ?_, ?_⟩
  · intro other id bound
    rw [lookup] at bound
    rw [entry?_enrolled]
    split at bound
    · next same =>
        obtain rfl := Option.some.inj bound
        rw [if_pos rfl]
        exact ⟨_, rfl, same.symm⟩
    · obtain ⟨entry, found, handle⟩ := sound.found bound
      rw [if_neg (ne_new_of_found found)]
      exact ⟨entry, found, handle⟩
  · intro id entry found
    rw [lookup]
    rcases entry?_enrolled_cases found with ⟨rfl, rfl⟩ | ⟨old, found'⟩
    · simp
    · split
      · next same =>
          -- The handle was free, so that the old entry of it is disposed.
          have disposed := sound.bound found'
          rw [same, free] at disposed
          constructor
          · intro bound
            exact absurd (Option.some.inj bound).symm old
          · intro live
            cases disposed.mpr live
      · exact sound.bound found'
  · intro id entry found
    rcases entry?_enrolled_cases found with ⟨_, rfl⟩ | ⟨_, found'⟩
    · exact .of_target target
    · exact sound.proper found'

/-- An entry that is not disposed of is the one that its handle stands for. -/
theorem lookup?_of_genuine (sound : world.Sound) (genuine : world.Genuine peer)
    (live : (world.life peer.entry).state ≠ .disposed) :
    world.own.registry.lookup? peer.handle = some peer.entry := by
  obtain ⟨entry, own, handle⟩ := genuine
  rw [← handle]
  exact (sound.bound own).mpr (by rwa [life_of_entry own] at live)

theorem peer?_of_genuine (sound : world.Sound) (genuine : world.Genuine peer)
    (live : (world.life peer.entry).state ≠ .disposed) :
    world.peer? peer.handle = some peer := by
  unfold World.peer?
  rw [sound.lookup?_of_genuine genuine live]
  rfl

/-- Disposing of an entry and freeing its handle go together. -/
theorem freed (sound : world.Sound) (genuine : world.Genuine peer) {next : Lifecycle}
    (live : (world.life peer.entry).state ≠ .disposed) (disposed : next.state = .disposed)
    (spent : next.Spent) (held : next.Held) :
    ((world.setLife peer.entry next).freed peer.handle).Sound := by
  have bound := sound.lookup?_of_genuine genuine live
  obtain ⟨disposing, own, handle⟩ := genuine
  have lookup : ∀ other, ((world.setLife peer.entry next).freed peer.handle).own.registry.lookup?
      other = if other = peer.handle then none else world.own.registry.lookup? other :=
    Registry.lookup?_erase _ _
  refine ⟨?_, ?_, ?_⟩
  · intro other id stands
    rw [lookup] at stands
    split at stands
    · cases stands
    · have genuine : world.Genuine ⟨id, other⟩ := sound.found stands
      exact genuine_setLife genuine
  · intro id entry found
    rw [lookup]
    rcases entry?_setLife_cases found with ⟨rfl, before, found', rfl⟩ | ⟨different, found'⟩
    · rw [own] at found'
      obtain rfl := Option.some.inj found'
      rw [if_pos handle]
      constructor
      · intro stands
        cases stands
      · intro stays
        exact absurd disposed stays
    · split
      · next same =>
          -- The handle stood for the other entry.
          have ended := sound.bound found'
          rw [same, bound] at ended
          constructor
          · intro stands
            cases stands
          · intro stays
            exact absurd (Option.some.inj (ended.mpr stays)).symm different
      · exact sound.bound found'
  · intro id entry found
    rcases entry?_setLife_cases found with ⟨rfl, before, found', rfl⟩ | ⟨_, found'⟩
    · exact .of_disposed disposed held spent
    · exact sound.proper found'

/-- Giving a reference up keeps the books, whether or not it was the last. -/
theorem concluded (sound : world.Sound) (genuine : world.Genuine peer) {given : Lifecycle}
    (state : given.state = (world.life peer.entry).state)
    (pin : given.pin = (world.life peer.entry).pin)
    (live : (world.life peer.entry).state ≠ .disposed)
    (held : given.tryTeardown.2.Held) : (world.concluded peer given.tryTeardown).Sound := by
  rcases Lifecycle.tryTeardown_cases given with ⟨_, _, torn⟩ | ⟨_, torn⟩
  · rw [torn] at held ⊢
    exact sound.freed genuine live rfl ⟨rfl, rfl, rfl, rfl⟩ held
  · rw [torn] at held ⊢
    exact sound.setLife_live live (by rwa [state]) held pin

end Sound

end World

end TransportBridge
