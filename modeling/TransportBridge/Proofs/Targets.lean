import TransportBridge.Proofs.RunPaths

/-!
Contract: a registration keeps its handle and its target, and is pinned to that
target or to none.
-/

namespace TransportBridge

variable {σ : Type} {world middle after : World σ Mark} {peer : Peer}

/-- The entry goes on as the same registration, and holds its target as before
or no more. -/
structure Entry.GoesOn (entry later : Entry) : Prop where
  handle : later.handle = entry.handle
  target : later.target = entry.target
  pin : later.life.pin = entry.life.pin ∨ later.life.pin = none

/-- The entry is pinned to its own target, if it is pinned. -/
def Entry.Pinned (entry : Entry) : Prop :=
  ∀ target, entry.life.pin = some target → entry.target = target

theorem Entry.GoesOn.refl (entry : Entry) : entry.GoesOn entry :=
  ⟨rfl, rfl, .inl rfl⟩

theorem Entry.GoesOn.pinned {entry later : Entry} (goesOn : entry.GoesOn later)
    (pinned : entry.Pinned) : later.Pinned := by
  intro target held
  rcases goesOn.pin with same | none
  · rw [goesOn.target]
    exact pinned target (same.symm.trans held)
  · cases none.symm.trans held

namespace World

/-- Every registration goes on, and those that are new are pinned to their own
targets. -/
structure GoesOn (before after : World σ Mark) : Prop where
  old {id : EntryId} {entry : Entry} : before.entry? id = some entry →
    ∃ later, after.entry? id = some later ∧ entry.GoesOn later
  new {id : EntryId} {later : Entry} : before.entry? id = none → after.entry? id = some later →
    later.Pinned

theorem GoesOn.of_entries (same : ∀ id, after.entry? id = world.entry? id) :
    world.GoesOn after where
  old {_ entry} found := ⟨entry, (same _).trans found, .refl entry⟩
  new {id _} absent found := by
    rw [same id, absent] at found
    cases found

/-- One lifecycle changes, and its pin does not but may be gone. -/
theorem GoesOn.of_setLife {next : Lifecycle} (genuine : world.Genuine peer)
    (pin : next.pin = (world.life peer.entry).pin ∨ next.pin = none)
    (same : ∀ id, after.entry? id = World.entry? (world.setLife peer.entry next) id) :
    world.GoesOn after := by
  obtain ⟨own, found, _⟩ := genuine
  rw [life_of_entry found] at pin
  refine ⟨fun {id entry} old => ?_, fun {id later} absent found' => ?_⟩
  · rw [same, entry?_setLife]
    split
    · next equal =>
        subst equal
        rw [found] at old ⊢
        obtain rfl := Option.some.inj old
        exact ⟨_, rfl, rfl, rfl, pin⟩
    · exact ⟨entry, old, .refl entry⟩
  · rw [same] at found'
    rcases entry?_setLife_cases found' with ⟨rfl, _, _, _⟩ | ⟨_, there⟩
    · cases absent.symm.trans found
    · cases absent.symm.trans there

theorem entry?_concluded (world : World σ Mark) (peer : Peer)
    (outcome : Option Teardown × Lifecycle) (id : EntryId) :
    World.entry? (world.concluded peer outcome) id =
      World.entry? (world.setLife peer.entry outcome.2) id := by
  obtain ⟨remains, next⟩ := outcome
  cases remains <;> rfl

end World

theorem Lifecycle.tryTeardown_pin (life : Lifecycle) :
    life.tryTeardown.2.pin = life.pin ∨ life.tryTeardown.2.pin = none := by
  rcases tryTeardown_cases life with ⟨_, _, torn⟩ | ⟨_, torn⟩
  · rw [torn]
    exact .inr rfl
  · rw [torn]
    exact .inl rfl

theorem Stride.goesOn (stride : Stride world after) (sound : world.Sound) :
    world.GoesOn after := by
  cases stride with
  | plain plain => exact .of_entries plain.found
  | @registered _ registry handle target inserted plain =>
      refine ⟨fun {id entry} found => ?_, fun {id later} absent found => ?_⟩
      · rw [plain.found, World.entry?_enrolled, if_neg (World.ne_new_of_found found)]
        exact ⟨entry, found, .refl entry⟩
      · rw [plain.found] at found
        rcases World.entry?_enrolled_cases found with ⟨_, rfl⟩ | ⟨_, old⟩
        · intro held pinned
          exact Option.some.inj pinned
        · cases absent.symm.trans old
  | called genuine accepts plain attached =>
      exact .of_setLife genuine (.inl accepts.keeps.pin) plain.found
  | missed genuine misses plain =>
      exact .of_setLife genuine (.inl (misses.keeps (sound.life_held _)).1.pin) plain.found
  | opened genuine begun plain =>
      exact .of_setLife genuine (.inl (Lifecycle.finishOpen_pin _)) plain.found
  | settled genuine given plain =>
      obtain ⟨_, _, rfl⟩ := Lifecycle.releaseNative_ok given
      refine .of_setLife genuine ?_ fun id =>
        (plain.found id).trans (World.entry?_concluded _ _ _ id)
      exact Lifecycle.tryTeardown_pin _
  | forwarded genuine forwards plain =>
      exact .of_setLife genuine (.inl forwards.keeps.1.pin) plain.found
  | retained genuine taken plain =>
      obtain ⟨_, rfl, _⟩ := Lifecycle.retain_ok taken
      refine .of_setLife genuine ?_ plain.found
      exact .inl rfl
  | released genuine given plain =>
      obtain ⟨_, _, rfl⟩ := Lifecycle.release_ok given
      refine .of_setLife genuine ?_ fun id =>
        (plain.found id).trans (World.entry?_concluded _ _ _ id)
      exact Lifecycle.tryTeardown_pin _
  | unreleased genuine refused plain => exact .of_entries plain.found

/-- All registrations are pinned to their own targets, those that are pinned. -/
def World.Pinned (world : World σ Mark) : Prop :=
  ∀ id entry, world.entry? id = some entry → entry.Pinned

theorem World.GoesOn.pinned (goesOn : world.GoesOn after) (pinned : world.Pinned) :
    after.Pinned := by
  intro id later found
  cases old : world.entry? id with
  | none => exact goesOn.new old found
  | some entry =>
      obtain ⟨same, found', goes⟩ := goesOn.old old
      obtain rfl := Option.some.inj (found'.symm.trans found)
      exact goes.pinned (pinned id entry old)

/-- The books are sound, and the pins are right. -/
structure World.Orderly (world : World σ Mark) : Prop where
  sound : world.Sound
  pinned : world.Pinned

theorem Path.orderly (path : Path world after) (orderly : world.Orderly) : after.Orderly where
  sound := path.sound orderly.sound
  pinned := path.invariant orderly.sound orderly.pinned fun sound pinned stride =>
    (stride.goesOn sound).pinned pinned

namespace World.Orderly

theorem fresh (config : Config) (surroundings : Surroundings σ) :
    (World.fresh config surroundings : World σ Mark).Orderly where
  sound := .fresh config surroundings
  pinned _ _ found := nomatch found

theorem plain (orderly : world.Orderly) (plain : world.Plain after) : after.Orderly :=
  Path.orderly (.single (.plain plain)) orderly

theorem push (orderly : world.Orderly) (moment : Moment Mark) : (world.push moment).Orderly where
  sound := orderly.sound.push moment
  pinned := orderly.pinned

/-- An event is accepted. -/
theorem accepted {event : SocketEvent} {target : TargetId} {next : Lifecycle}
    (orderly : world.Orderly) (genuine : world.Genuine peer)
    (accepts : (world.life peer.entry).Accepts event target next) :
    (world.setLife peer.entry next).Orderly where
  sound := orderly.sound.keepsHolds accepts.keeps
  pinned := (GoesOn.of_setLife genuine (.inl accepts.keeps.pin) fun _ => rfl).pinned orderly.pinned

end World.Orderly

/-- A registration keeps its handle and its target along a path. -/
theorem Path.entry_kept (path : Path world after) (sound : world.Sound) {id : EntryId}
    {entry : Entry} (found : world.entry? id = some entry) :
    ∃ later, after.entry? id = some later ∧ later.handle = entry.handle ∧
      later.target = entry.target := by
  induction path with
  | refl => exact ⟨entry, found, rfl, rfl⟩
  | tail path stride inductionHypothesis =>
      obtain ⟨kept, found', handle, target⟩ := inductionHypothesis
      obtain ⟨later, found'', goesOn⟩ := (stride.goesOn (Path.sound path sound)).old found'
      exact ⟨later, found'', goesOn.handle.trans handle, goesOn.target.trans target⟩

/-- What is not there at the end was not there before. -/
theorem Path.absent (path : Path world after) (sound : world.Sound) {id : EntryId}
    (absent : after.entry? id = none) : world.entry? id = none := by
  cases found : world.entry? id with
  | none => rfl
  | some entry =>
      obtain ⟨_, kept, _⟩ := path.entry_kept sound found
      cases kept.symm.trans absent

end TransportBridge
