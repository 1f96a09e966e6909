import TransportBridge.Proofs.RunAccounts
import TransportBridge.Proofs.SideBySide

/-!
Contract: all that user code gets to see in the course of a run.

Watched code is the same code, and has the world noted before each of its
steps: when it starts, before and after every call that it makes, and when it
returns or panics. It is shown the worlds without the notes, so it cannot tell
that it is watched. At the top, the world is noted before each call and after
it.

Owns: watched hosts and the worlds of watched runs; that watching changes
nothing, so that watched runs without the notes are all the runs there are; that
a run notes nothing but what is at the end of a trail, in the order in which the
trail comes by.
-/

namespace TransportBridge

variable {σ α : Type}

/-- A host, and the worlds that its code has seen, oldest first. -/
structure Watched (σ : Type) where
  host : σ
  seen : List (World σ Mark)

instance [Custodian σ] : Custodian (Watched σ) where
  knows watched := Custodian.knows watched.host
  forget target watched :=
    let (known, host) := Custodian.forget target watched.host
    (known, { watched with host })

/-! ## Watched code -/

namespace Surroundings

def watched (surroundings : Surroundings σ) (seen : List (World σ Mark)) :
    Surroundings (Watched σ) :=
  { surroundings with host := ⟨surroundings.host, seen⟩ }

def unwatched (surroundings : Surroundings (Watched σ)) : Surroundings σ :=
  { surroundings with host := surroundings.host.host }

def noting (seen : World σ Mark) (surroundings : Surroundings (Watched σ)) :
    Surroundings (Watched σ) :=
  surroundings.unwatched.watched (surroundings.host.seen ++ [seen])

end Surroundings

namespace World

/-- The world without the notes. -/
def unwatched (world : World (Watched σ) Mark) : World σ Mark :=
  { world with host := world.host.host }

/-- The world is noted. -/
def noted (world : World (Watched σ) Mark) : World (Watched σ) Mark :=
  world.amid (world.surroundings.noting world.unwatched)

end World

namespace UserCode

/-- Has the world noted that the code starts from. -/
def noting (code : UserCode (Watched σ) α) : UserCode (Watched σ) α :=
  .look fun world => .rearrange (·.noting world.unwatched) code

def watched : UserCode σ α → UserCode (Watched σ) α
  | .finish result => (finish result).noting
  | .unwind panic => (unwind panic).noting
  | .look next => (look fun world => (next world.unwatched).watched).noting
  | .rearrange change next =>
    (rearrange (fun surroundings =>
      (change surroundings.unwatched).watched surroundings.host.seen) next.watched).noting
  | .call made next => (call made fun reply => (next reply).watched).noting

end UserCode

def Behaviour.watched (behaviour : Behaviour σ) : Behaviour (Watched σ) where
  callback peer target event := (behaviour.callback peer target event).watched
  createHandle address framing := (behaviour.createHandle address framing).watched
  engine handle call := (behaviour.engine handle call).watched
  createTarget factory handle address options :=
    (behaviour.createTarget factory handle address options).watched

variable [Custodian σ]

/-- The worlds between the calls at the top of a watched run. -/
inductive Observed : World (Watched σ) Mark → Prop where
  | fresh (config : Config) (surroundings : Surroundings σ) :
      Observed (.fresh config (surroundings.watched []))
  | rearranged {world : World (Watched σ) Mark} (observed : Observed world)
      (surroundings : Surroundings σ) :
      Observed (world.amid (surroundings.watched world.host.seen))
  | called {world : World (Watched σ) Mark} (observed : Observed world)
      (behaviour : Behaviour σ) (depth : Nat) (call : BridgeCall) :
      Observed (call.make behaviour.watched depth world.noted).2.noted

/-- Makes watched calls at the top, one after the other. -/
def Behaviour.watchedInTurn (behaviour : Behaviour σ) (depth : Nat) (calls : List BridgeCall)
    (world : World (Watched σ) Mark) : World (Watched σ) Mark :=
  calls.foldl (fun world call => (call.make behaviour.watched depth world.noted).2.noted) world

theorem Observed.inTurn {world : World (Watched σ) Mark} (observed : Observed world)
    (behaviour : Behaviour σ) (depth : Nat) (calls : List BridgeCall) :
    Observed (behaviour.watchedInTurn depth calls world) := by
  induction calls generalizing world with
  | nil => exact observed
  | cons call rest inductionHypothesis =>
      exact inductionHypothesis (.called observed behaviour depth call)

/-! ## Watching changes nothing -/

/-- The world without the notes, as a view. -/
def View.unwatching : View (Watched σ) σ where
  host := Watched.host
  knows _ := rfl
  forget _ _ := rfl

theorem World.through_unwatching (world : World (Watched σ) Mark) :
    world.through View.unwatching = world.unwatched :=
  congrArg World.unwatched world.preceded_nothing

section Unwatched

variable {make : BridgeCall → BridgeM (Watched σ) Mark Reply}
  {make' : BridgeCall → BridgeM σ Mark Reply} {world : World (Watched σ) Mark}

theorem UserCode.noting_follows {code : UserCode (Watched σ) α} {plain : BridgeM σ Mark α}
    (rest : ∀ world : World (Watched σ) Mark, world.Sound →
      Follows View.unwatching (code.run make) plain world) (sound : world.Sound) :
    Follows View.unwatching (code.noting.run make) plain world :=
  rest world.noted (sound.plain (.amid _))

/-- Code comes to the same if nobody watches it. -/
theorem UserCode.watched_follows
    (makes : ∀ call (world : World (Watched σ) Mark), world.Sound →
      world.Evolves (make call world).2)
    (follow : ∀ call (world : World (Watched σ) Mark), world.Sound →
      Follows View.unwatching (make call) (make' call) world)
    (code : UserCode σ α) (sound : world.Sound) :
    Follows View.unwatching (code.watched.run make) (code.run make') world := by
  induction code generalizing world with
  | finish result => exact noting_follows (fun _ _ => rfl) sound
  | unwind panic => exact noting_follows (fun _ _ => rfl) sound
  | look next inductionHypothesis =>
      refine noting_follows (fun world sound => ?_) sound
      show (next (world.through View.unwatching)).run make' (world.through View.unwatching) =
        View.unwatching.upon ((next world.unwatched).watched.run make world)
      have rest := inductionHypothesis world.unwatched sound
      rw [world.through_unwatching]
      unfold Follows at rest
      rwa [world.through_unwatching] at rest
  | rearrange change next inductionHypothesis =>
      refine noting_follows (fun world sound => ?_) sound
      let rearranged := world.amid
        ((change world.surroundings.unwatched).watched world.host.seen)
      have rest : Follows View.unwatching (next.watched.run make) (next.run make') rearranged :=
        inductionHypothesis (sound.plain (.amid _))
      exact rest
  | call made next inductionHypothesis =>
      refine noting_follows (fun world sound => ?_) sound
      refine .bind (follow made world sound) fun reply answered ran => ?_
      exact inductionHypothesis reply (((makes made world sound).after_run ran).sound sound)

theorem Behaviour.watched_alike (behaviour : Behaviour σ) :
    behaviour.watched.Alike View.unwatching behaviour := fun _ _ makes follow =>
  { callback := fun sound _ _ _ => UserCode.watched_follows makes follow _ sound
    createHandle := fun sound _ _ => UserCode.watched_follows makes follow _ sound
    engine := fun sound _ _ => UserCode.watched_follows makes follow _ sound
    createTarget := fun sound _ _ _ _ => UserCode.watched_follows makes follow _ sound }

/-- A call ends in the same way if nobody watches it. -/
theorem BridgeCall.make_unwatched (behaviour : Behaviour σ) (depth : Nat) (call : BridgeCall)
    (sound : world.Sound) :
    call.make behaviour depth world.unwatched =
      ((call.make behaviour.watched depth world).1,
        (call.make behaviour.watched depth world).2.unwatched) := by
  have follows : Follows View.unwatching (call.make behaviour.watched depth)
      (call.make behaviour depth) world := make_alike behaviour.watched_alike depth call sound
  unfold Follows View.upon at follows
  rwa [World.through_unwatching, World.through_unwatching] at follows

end Unwatched

/-! ## The notes along a trail -/

/-- Nothing is added to the notes but the world as it is. -/
def Truthful : Latitude (Watched σ) := fun world surroundings =>
  surroundings.host.seen = world.host.seen ∨
    surroundings.host.seen = world.host.seen ++ [world.unwatched]

variable {world after : World (Watched σ) Mark}

omit [Custodian σ] in
theorem UserCode.Within.noting {code : UserCode (Watched σ) α}
    (within : ∀ world, code.Within Truthful world) (world : World (Watched σ) Mark) :
    code.noting.Within Truthful world :=
  ⟨.inr rfl, within _⟩

omit [Custodian σ] in
theorem UserCode.watched_within (code : UserCode σ α) (world : World (Watched σ) Mark) :
    code.watched.Within Truthful world := by
  induction code generalizing world with
  | finish | unwind => exact ⟨.inr rfl, trivial⟩
  | look next inductionHypothesis =>
      refine Within.noting (fun world => ?_) world
      exact inductionHypothesis world.unwatched world
  | rearrange change next inductionHypothesis =>
      refine Within.noting (fun world => ?_) world
      exact ⟨.inl rfl, inductionHypothesis _⟩
  | call made next inductionHypothesis =>
      refine Within.noting (fun world => ?_) world
      exact fun reply after => inductionHypothesis reply after

omit [Custodian σ] in
theorem Behaviour.watched_within (behaviour : Behaviour σ) : behaviour.watched.Within Truthful where
  callback _ _ _ := UserCode.watched_within _
  createHandle _ _ := UserCode.watched_within _
  engine _ _ := UserCode.watched_within _
  createTarget _ _ _ _ := UserCode.watched_within _

/-- A watched run goes along a trail. -/
theorem Observed.trail (observed : Observed world) :
    ∃ config, ∃ surroundings : Surroundings σ,
      Trail Truthful (.fresh config (surroundings.watched [])) world := by
  induction observed with
  | fresh config surroundings => exact ⟨config, surroundings, .refl⟩
  | rearranged _ surroundings inductionHypothesis =>
      obtain ⟨config, before, trail⟩ := inductionHypothesis
      exact ⟨config, before, trail.tail (.rearranged (.inl rfl))⟩
  | @called world _ behaviour depth call inductionHypothesis =>
      obtain ⟨config, before, trail⟩ := inductionHypothesis
      have begun : Trail Truthful _ world.noted := trail.tail (.rearranged (.inr rfl))
      have made := call.make_recounts behaviour.watched_within depth
        (begun.path.orderly (.fresh config _))
      exact ⟨config, before, (begun.trans made.trail).tail (.rearranged (.inr rfl))⟩

theorem Observed.sound (observed : Observed world) : world.Sound := by
  obtain ⟨config, surroundings, trail⟩ := observed.trail
  exact trail.sound (.fresh config _)

/-- What is observed may happen where nobody watches. -/
theorem Observed.reachable (observed : Observed world) : Reachable world.unwatched := by
  induction observed with
  | fresh config surroundings => exact .fresh config surroundings
  | rearranged _ surroundings inductionHypothesis =>
      exact .rearranged inductionHypothesis surroundings
  | @called world observed behaviour depth call inductionHypothesis =>
      have noted : world.noted.Sound := observed.sound.plain (.amid _)
      have same := congrArg Prod.snd (call.make_unwatched behaviour depth noted)
      have called : Reachable (call.make behaviour depth world.noted.unwatched).2 :=
        inductionHypothesis.called behaviour depth call
      rw [same] at called
      exact called

/-- All that happens may be observed. -/
theorem Reachable.observed {world : World σ Mark} (reached : Reachable world) :
    ∃ run, Observed run ∧ run.unwatched = world := by
  induction reached with
  | fresh config surroundings => exact ⟨_, .fresh config surroundings, rfl⟩
  | rearranged _ surroundings inductionHypothesis =>
      obtain ⟨run, observed, rfl⟩ := inductionHypothesis
      exact ⟨_, observed.rearranged surroundings, rfl⟩
  | called _ behaviour depth call inductionHypothesis =>
      obtain ⟨run, observed, rfl⟩ := inductionHypothesis
      have noted : run.noted.Sound := observed.sound.plain (.amid _)
      have same := congrArg Prod.snd (call.make_unwatched behaviour depth noted)
      exact ⟨_, observed.called behaviour depth call, same.symm⟩

/-- The host forgets, and the notes stay. -/
theorem Forgets.seen {before after : Watched σ} (forgets : Forgets before after) :
    after.seen = before.seen := by
  induction forgets with
  | refl => rfl
  | tail _ step inductionHypothesis =>
      obtain ⟨target, rfl⟩ := step
      exact inductionHypothesis

omit [Custodian σ] in
private theorem host_concluded (world : World (Watched σ) Mark) (peer : Peer)
    (outcome : Option Teardown × Lifecycle) :
    (world.concluded peer outcome).host.seen = world.host.seen := by
  obtain ⟨remains, next⟩ := outcome
  cases remains <;> rfl

/-- A grain leaves the notes as they are, or notes the world that it finds. -/
theorem Grain.seen (grain : Grain Truthful world after) :
    after.host.seen = world.host.seen ∨
      after.host.seen = world.host.seen ++ [world.unwatched] := by
  cases grain with
  | rearranged allowed => exact allowed
  | asked => exact .inl rfl
  | begun => exact .inl rfl
  | ended => exact .inl rfl
  | opened => exact .inl rfl
  | quiet quiet => exact .inl (Forgets.seen quiet.host)
  | loosed _ quiet => exact .inl (Forgets.seen quiet.host)
  | registered _ quiet => exact .inl (Forgets.seen quiet.host)
  | called _ _ _ _ quiet => exact .inl (Forgets.seen quiet.host)
  | missed _ _ quiet => exact .inl (Forgets.seen quiet.host)
  | @settled _ peer outcome _ _ _ quiet =>
      exact .inl ((Forgets.seen quiet.host).trans (host_concluded world peer outcome))
  | forwarded _ _ _ quiet => exact .inl (Forgets.seen quiet.host)
  | retained _ _ quiet => exact .inl (Forgets.seen quiet.host)
  | @released _ peer outcome _ _ _ quiet _ =>
      exact .inl ((Forgets.seen quiet.host).trans (host_concluded world peer outcome))
  | unreleased _ _ quiet => exact .inl (Forgets.seen quiet.host)

/-- What has been noted is at the end of a trail. -/
theorem Trail.noted {start : World (Watched σ) Mark} (trail : Trail Truthful start world)
    (unnoted : start.host.seen = []) {seen : World σ Mark} (member : seen ∈ world.host.seen) :
    ∃ noted, Trail Truthful start noted ∧ noted.unwatched = seen := by
  induction trail with
  | refl =>
      rw [unnoted] at member
      cases member
  | @tail before after trail grain inductionHypothesis =>
      rcases grain.seen with same | added
      · exact inductionHypothesis (same ▸ member)
      · rw [added] at member
        rcases List.mem_append.mp member with old | new
        · exact inductionHypothesis old
        · exact ⟨before, trail, (List.mem_singleton.mp new).symm⟩

/-- If what grains do is ordered, so are the notes. -/
theorem Trail.notes_ordered {start : World (Watched σ) Mark}
    (leads : World σ Mark → World σ Mark → Prop) (trail : Trail Truthful start world)
    (unnoted : start.host.seen = [])
    (goesOn : ∀ {one two three}, leads one two → leads two three → leads one three)
    (step : ∀ {before after}, Trail Truthful start before → Grain Truthful before after →
      leads before.unwatched after.unwatched) :
    world.host.seen.Pairwise leads ∧ ∀ seen ∈ world.host.seen, leads seen world.unwatched := by
  induction trail with
  | refl =>
      rw [unnoted]
      exact ⟨.nil, List.forall_mem_nil _⟩
  | @tail before after trail grain inductionHypothesis =>
      obtain ⟨ordered, leadsHere⟩ := inductionHypothesis
      have further := step trail grain
      have old : ∀ seen ∈ before.host.seen, leads seen after.unwatched :=
        fun seen member => goesOn (leadsHere seen member) further
      rcases grain.seen with same | added
      · rw [same]
        exact ⟨ordered, old⟩
      · rw [added]
        refine ⟨List.pairwise_append.mpr ⟨ordered, List.pairwise_singleton _ _, ?_⟩, ?_⟩
        · intro seen member last final
          rw [List.mem_singleton.mp final]
          exact leadsHere seen member
        · intro seen member
          rcases List.mem_append.mp member with before | last
          · exact old seen before
          · rw [List.mem_singleton.mp last]
            exact further

end TransportBridge
