import Mathlib.Logic.Relation
import TransportBridge.Proofs.Books

/-!
Contract: what a run does to the books of a bridge, one stride at a time.

A stride is the least change of the books that another party can see whole: a
callback begins together with the acceptance of its event, and a reference is
given up together with the teardown that follows. An event that is accepted and
not delivered is one stride, too.

Owns: strides and paths, and that they keep the books sound.

Does not own: that a run is made of strides.
-/

namespace TransportBridge

section Strides

variable {σ : Type}

/-- The least change of the books that another party can see whole. -/
inductive Stride : World σ Mark → World σ Mark → Prop where
  | plain {world after : World σ Mark} (plain : world.Plain after) : Stride world after
  | registered {world after : World σ Mark} {registry : Registry} {handle : Handle}
      {target : TargetId}
      (inserted : world.own.registry.insert? handle ⟨world.entries.size⟩ = some registry)
      (plain : (world.enrolled registry handle target).Plain after) : Stride world after
  /-- An event is accepted, and its callback begins. -/
  | called {world ready : World σ Mark} {peer : Peer} {event : SocketEvent} {target : TargetId}
      {next : Lifecycle} (genuine : world.Genuine peer)
      (accepts : (world.life peer.entry).Accepts event target next)
      (plain : (world.setLife peer.entry next).Plain ready) (attached : Option Bool) :
      Stride world (ready.push (.callback peer target event attached))
  /-- An event is accepted, and its callback does not begin. -/
  | missed {world after : World σ Mark} {peer : Peer} {event : SocketEvent} {left : Lifecycle}
      (genuine : world.Genuine peer) (misses : (world.life peer.entry).Misses event left)
      (plain : (world.setLife peer.entry left).Plain after) : Stride world after
  /-- The callback of an open request has returned. -/
  | opened {world after : World σ Mark} {peer : Peer} (genuine : world.Genuine peer)
      (begun : .callback .openRequest ∈ world.deeds peer.entry)
      (plain : (world.setLife peer.entry (world.life peer.entry).finishOpen.2).Plain after) :
      Stride world after
  /-- The native side gives its reference up. -/
  | settled {world after : World σ Mark} {peer : Peer}
      {outcome : Option Teardown × Lifecycle} (genuine : world.Genuine peer)
      (given : (world.life peer.entry).releaseNative = .ok outcome)
      (plain : (world.concluded peer outcome).Plain after) : Stride world after
  /-- A call of the managed side is checked, and the engine called. -/
  | forwarded {world ready : World σ Mark} {peer : Peer} {call : EngineCall} {next : Lifecycle}
      (genuine : world.Genuine peer)
      (forwards : (world.life peer.entry).Forwards world.config.maxPendingWriteBytes call next)
      (plain : (world.setLife peer.entry next).Plain ready) :
      Stride world (ready.push (.engineCalled (some peer.entry) peer.handle call))
  | retained {world after : World σ Mark} {peer : Peer} {references : Nat} {next : Lifecycle}
      (genuine : world.Genuine peer)
      (taken : (world.life peer.entry).retain = .ok (references, next))
      (plain : (world.setLife peer.entry next).Plain after) :
      Stride world (after.push (.marked (.replied (.socket peer.entry .retain)
        (.count references))))
  | released {world after : World σ Mark} {peer : Peer}
      {outcome : Option Teardown × Lifecycle} (genuine : world.Genuine peer)
      (given : (world.life peer.entry).release = .ok outcome)
      (plain : (world.concluded peer outcome).Plain after) :
      Stride world (after.push (.marked (.replied (.socket peer.entry .release) .done)))
  | unreleased {world after : World σ Mark} {peer : Peer} {refusal : Refusal}
      (genuine : world.Genuine peer)
      (refused : (world.life peer.entry).release = .error refusal) (plain : world.Plain after) :
      Stride world (after.push (.marked (.replied (.socket peer.entry .release)
        (.rejected (refusal.toError peer.handle)))))

/-- Any number of strides. -/
abbrev Path : World σ Mark → World σ Mark → Prop :=
  Relation.ReflTransGen Stride

variable {world after : World σ Mark} {peer : Peer}

theorem Stride.sound (stride : Stride world after) (sound : world.Sound) : after.Sound := by
  cases stride with
  | plain plain => exact sound.plain plain
  | registered inserted plain => exact (sound.enrolled inserted _).plain plain
  | called genuine accepts plain attached =>
      exact ((sound.keepsHolds accepts.keeps).plain plain).push _
  | missed genuine misses plain =>
      obtain ⟨keeps, _⟩ := misses.keeps (sound.life_held _)
      exact (sound.keepsHolds keeps).plain plain
  | @opened _ peer genuine begun plain =>
      obtain ⟨entry, found, _⟩ := genuine
      have life := World.life_of_entry found
      refine (sound.setLife ?_ ?_ ?_ ?_).plain plain
      · exact Lifecycle.finishOpen_disposed_iff _
      · intro disposed
        rw [Lifecycle.finishOpen_disposed_iff, life] at disposed
        rw [life]
        exact ((sound.proper found).spent disposed).finishOpen
      · exact (sound.life_held _).finishOpen
      · exact Lifecycle.finishOpen_pin _
  | settled genuine given plain =>
      have held := Lifecycle.Held.releaseNative given
      obtain ⟨_, closed, rfl⟩ := Lifecycle.releaseNative_ok given
      refine (sound.concluded genuine ?_ ?_ ?_ held).plain plain
      · rfl
      · rfl
      · exact fun disposed => nomatch closed.symm.trans disposed
  | forwarded genuine forwards plain =>
      obtain ⟨keeps, _⟩ := forwards.keeps
      exact ((sound.keepsHolds keeps).plain plain).push _
  | retained genuine taken plain =>
      exact ((sound.retained taken).plain plain).push _
  | released genuine given plain =>
      have held := (sound.life_held _).release given
      obtain ⟨disposed, _, rfl⟩ := Lifecycle.release_ok given
      refine ((sound.concluded genuine ?_ ?_ disposed held).plain plain).push _
      · rfl
      · rfl
  | unreleased genuine refused plain => exact (sound.plain plain).push _

theorem Path.sound (path : Path world after) (sound : world.Sound) : after.Sound := by
  induction path with
  | refl => exact sound
  | tail _ stride inductionHypothesis => exact stride.sound inductionHypothesis

/-- What every stride keeps in sound books holds along a path. -/
theorem Path.invariant {holds : World σ Mark → Prop} (path : Path world after)
    (sound : world.Sound) (begins : holds world)
    (keeps : ∀ {before after : World σ Mark}, before.Sound → holds before →
      Stride before after → holds after) : holds after := by
  induction path with
  | refl => exact begins
  | tail path stride inductionHypothesis =>
      exact keeps (Path.sound path sound) inductionHypothesis stride

theorem World.genuine_concluded (genuine : world.Genuine peer) (closing : Peer)
    (outcome : Option Teardown × Lifecycle) : (world.concluded closing outcome).Genuine peer := by
  obtain ⟨remains, next⟩ := outcome
  cases remains with
  | none => exact genuine_setLife genuine
  | some _ =>
      have kept : (world.setLife closing.entry next).Genuine peer := genuine_setLife genuine
      exact kept

/-- A registration is never forgotten, nor its handle changed. -/
theorem Stride.genuine (stride : Stride world after) (genuine : world.Genuine peer) :
    after.Genuine peer := by
  cases stride with
  | plain plain => exact plain.genuine genuine
  | registered inserted plain =>
      apply plain.genuine
      obtain ⟨entry, found, handle⟩ := genuine
      refine ⟨entry, ?_, handle⟩
      rw [World.entry?_enrolled, if_neg (World.ne_new_of_found found)]
      exact found
  | called _ _ plain _ => exact plain.genuine (World.genuine_setLife genuine)
  | missed _ _ plain => exact plain.genuine (World.genuine_setLife genuine)
  | opened _ _ plain => exact plain.genuine (World.genuine_setLife genuine)
  | settled _ _ plain => exact plain.genuine (World.genuine_concluded genuine _ _)
  | forwarded _ _ plain => exact plain.genuine (World.genuine_setLife genuine)
  | retained _ _ plain => exact plain.genuine (World.genuine_setLife genuine)
  | released _ _ plain => exact plain.genuine (World.genuine_concluded genuine _ _)
  | unreleased _ _ plain => exact plain.genuine genuine

theorem Path.genuine (path : Path world after) (genuine : world.Genuine peer) :
    after.Genuine peer := by
  induction path with
  | refl => exact genuine
  | tail _ stride inductionHypothesis => exact stride.genuine inductionHypothesis

theorem World.deeds_concluded (world : World σ Mark) (peer : Peer)
    (outcome : Option Teardown × Lifecycle) (id : EntryId) :
    (world.concluded peer outcome).deeds id = world.deeds id := by
  obtain ⟨remains, next⟩ := outcome
  cases remains <;> rfl

/-- Deeds are never taken back. -/
theorem Stride.deeds_prefix (stride : Stride world after) (id : EntryId) :
    world.deeds id <+: after.deeds id := by
  cases stride with
  | plain plain => exact ⟨[], by rw [plain.deeds, List.append_nil]⟩
  | registered inserted plain => exact ⟨[], by rw [plain.deeds, List.append_nil]; rfl⟩
  | called genuine accepts plain attached =>
      rw [World.deeds_push, plain.deeds]
      exact List.prefix_append _ _
  | missed genuine misses plain => exact ⟨[], by rw [plain.deeds, List.append_nil]; rfl⟩
  | opened genuine begun plain => exact ⟨[], by rw [plain.deeds, List.append_nil]; rfl⟩
  | settled genuine given plain =>
      exact ⟨[], by rw [plain.deeds, World.deeds_concluded, List.append_nil]⟩
  | forwarded genuine forwards plain =>
      rw [World.deeds_push, plain.deeds]
      exact List.prefix_append _ _
  | retained genuine taken plain =>
      rw [World.deeds_push, plain.deeds]
      exact List.prefix_append _ _
  | released genuine given plain =>
      rw [World.deeds_push, plain.deeds, World.deeds_concluded]
      exact List.prefix_append _ _
  | unreleased genuine refused plain =>
      rw [World.deeds_push, plain.deeds]
      exact List.prefix_append _ _

theorem Path.deeds_prefix (path : Path world after) (id : EntryId) :
    world.deeds id <+: after.deeds id := by
  induction path with
  | refl => exact List.prefix_rfl
  | tail _ stride inductionHypothesis =>
      exact inductionHypothesis.trans (stride.deeds_prefix id)

end Strides

end TransportBridge
