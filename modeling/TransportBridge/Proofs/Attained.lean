import TransportBridge.Proofs.EventOrder
import TransportBridge.Proofs.SideBySide

/-!
Contract: the worlds that user code comes to see, within calls and between
them.

A call asks the host in a world if it makes a difference how the host answers
there. From the worlds between the calls at the top, the attained ones are
found by going into the code that a call asks, to any depth, and going on as
user code may.

Owns: attained worlds, what comes after a world, and that it is at the end of a
path from there.
-/

namespace TransportBridge

variable {σ : Type} {world asked : World σ Mark}

/-- Hosts that answer alike in every world but one. -/
structure Host.AgreesBut (host other : Host σ Mark) (asked : World σ Mark) : Prop where
  callback {world : World σ Mark} (elsewhere : world ≠ asked) (peer : Peer) (target : TargetId)
      (event : SocketEvent) :
      other.callback peer target event world = host.callback peer target event world
  createHandle {world : World σ Mark} (elsewhere : world ≠ asked) (address : Address)
      (framing : Framing) :
      other.createHandle address framing world = host.createHandle address framing world
  engine {world : World σ Mark} (elsewhere : world ≠ asked) (handle : Handle)
      (call : EngineCall) : other.engine handle call world = host.engine handle call world
  createTarget {world : World σ Mark} (elsewhere : world ≠ asked) (factory : FactoryId)
      (handle : Handle) (address : Address) (options : Bytes) :
      other.createTarget factory handle address options world =
        host.createTarget factory handle address options world

section Asking

variable [Custodian σ]

/-- What comes of the call depends on how the host answers in `asked`. -/
def BridgeCall.Asks (host : Host σ Mark) (call : BridgeCall) (world asked : World σ Mark) : Prop :=
  ∃ other, host.AgreesBut other asked ∧ call.perform other world ≠ call.perform host world

/-- The worlds between the calls at the top and within them. -/
inductive Attained : World σ Mark → Prop where
  | fresh (config : Config) (surroundings : Surroundings σ) :
      Attained (.fresh config surroundings)
  | rearranged {world : World σ Mark} (attained : Attained world)
      (surroundings : Surroundings σ) : Attained (world.amid surroundings)
  | called {world : World σ Mark} (attained : Attained world) (behaviour : Behaviour σ)
      (depth : Nat) (call : BridgeCall) : Attained (call.make behaviour depth world).2
  /-- The code that the call asks has the word. -/
  | asked {world asked : World σ Mark} (attained : Attained world) (behaviour : Behaviour σ)
      (depth : Nat) (call : BridgeCall)
      (asks : call.Asks (behaviour.host (BridgeCall.make behaviour depth))
        (world.push (.marked (.called call))) asked) : Attained asked

/-- The worlds that come after one, between calls that are made from then on and
within them. -/
inductive Onward (start : World σ Mark) : World σ Mark → Prop where
  | here : Onward start start
  | rearranged {world : World σ Mark} (onward : Onward start world)
      (surroundings : Surroundings σ) : Onward start (world.amid surroundings)
  | called {world : World σ Mark} (onward : Onward start world) (behaviour : Behaviour σ)
      (depth : Nat) (call : BridgeCall) : Onward start (call.make behaviour depth world).2
  | asked {world asked : World σ Mark} (onward : Onward start world) (behaviour : Behaviour σ)
      (depth : Nat) (call : BridgeCall)
      (asks : call.Asks (behaviour.host (BridgeCall.make behaviour depth))
        (world.push (.marked (.called call))) asked) : Onward start asked

theorem Attained.onward (attained : Attained world) :
    ∃ config surroundings, Onward (World.fresh config surroundings) world := by
  induction attained with
  | fresh config surroundings => exact ⟨config, surroundings, .here⟩
  | rearranged _ surroundings inductionHypothesis =>
      obtain ⟨config, before, onward⟩ := inductionHypothesis
      exact ⟨config, before, onward.rearranged surroundings⟩
  | called _ behaviour depth call inductionHypothesis =>
      obtain ⟨config, before, onward⟩ := inductionHypothesis
      exact ⟨config, before, onward.called behaviour depth call⟩
  | asked _ behaviour depth call asks inductionHypothesis =>
      obtain ⟨config, before, onward⟩ := inductionHypothesis
      exact ⟨config, before, onward.asked behaviour depth call asks⟩

namespace Onward

variable {start : World σ Mark}

theorem attained (onward : Onward start world) (attained : Attained start) : Attained world := by
  induction onward with
  | here => exact attained
  | rearranged _ surroundings inductionHypothesis =>
      exact .rearranged inductionHypothesis surroundings
  | called _ behaviour depth call inductionHypothesis =>
      exact .called inductionHypothesis behaviour depth call
  | asked _ behaviour depth call asks inductionHypothesis =>
      exact .asked inductionHypothesis behaviour depth call asks

theorem inTurn (onward : Onward start world) (behaviour : Behaviour σ) (depth : Nat)
    (calls : List BridgeCall) : Onward start (behaviour.inTurn depth calls world) := by
  induction calls generalizing world with
  | nil => exact onward
  | cons call rest inductionHypothesis =>
      exact inductionHypothesis (onward.called behaviour depth call)

end Onward

theorem Reachable.attained (reached : Reachable world) : Attained world := by
  induction reached with
  | fresh config surroundings => exact .fresh config surroundings
  | rearranged _ surroundings inductionHypothesis =>
      exact .rearranged inductionHypothesis surroundings
  | called _ behaviour depth call inductionHypothesis =>
      exact .called inductionHypothesis behaviour depth call

end Asking

section Paths

variable [Custodian σ]

theorem follows_nothing_iff {α : Type} (one other : BridgeM σ Mark α) (world : World σ Mark) :
    Follows (Past.view {}) one other world ↔ other world = one world := by
  have same (world : World σ Mark) : world.through (Past.view {}) = world :=
    world.preceded_nothing
  unfold Follows View.upon
  rw [same, same]
  exact .rfl

/-- A host that agrees in all worlds that paths lead to is alike there. -/
theorem Host.AgreesBut.alike {host other : Host σ Mark} (agrees : host.AgreesBut other asked)
    (unreached : ¬ Path world asked) : host.Alike (Past.view {}) (Path world) other := by
  have elsewhere {reached : World σ Mark} (path : Path world reached) : reached ≠ asked := by
    rintro rfl
    exact unreached path
  refine ⟨?_, ?_, ?_, ?_⟩
  · intro reached path peer target event
    rw [follows_nothing_iff]
    exact agrees.callback (elsewhere path) peer target event
  · intro reached path address framing
    rw [follows_nothing_iff]
    exact agrees.createHandle (elsewhere path) address framing
  · intro reached path handle call
    rw [follows_nothing_iff]
    exact agrees.engine (elsewhere path) handle call
  · intro reached path factory handle address options
    rw [follows_nothing_iff]
    exact agrees.createTarget (elsewhere path) factory handle address options

/-- A call asks the host where a path leads to, as any other world makes no
difference. -/
theorem BridgeCall.Asks.path {host : Host σ Mark} {call : BridgeCall}
    (asks : call.Asks host world asked) (hostEvolves : host.Evolves) (sound : world.Sound) :
    Path world asked := by
  refine Classical.byContradiction fun unreached => ?_
  obtain ⟨other, agrees, differs⟩ := asks
  have same : Follows (Past.view {}) (call.perform host) (call.perform other) world :=
    perform_follows (agrees.alike unreached) hostEvolves (.of_path sound) .refl call
  exact differs ((follows_nothing_iff _ _ _).mp same)

/-- What comes after a world is at the end of a path from it. -/
theorem Onward.path {start : World σ Mark} (onward : Onward start world) (sound : start.Sound) :
    Path start world := by
  induction onward with
  | here => exact .refl
  | @rearranged world _ surroundings inductionHypothesis =>
      exact inductionHypothesis.tail (.plain (.amid surroundings))
  | called _ behaviour depth call inductionHypothesis =>
      exact inductionHypothesis.trans
        (call.make_evolves behaviour depth (inductionHypothesis.sound sound)).path
  | @asked world asked _ behaviour depth call asks inductionHypothesis =>
      have called : world.Plain (world.push (.marked (.called call))) := .push (fun _ => rfl) rfl
      have calledSound := (inductionHypothesis.sound sound).plain called
      exact (inductionHypothesis.tail (.plain called)).trans
        (asks.path (behaviour.host_make_evolves depth) calledSound)

namespace Attained

/-- Attained worlds are at the end of a path from a fresh one. -/
theorem path (attained : Attained world) :
    ∃ config surroundings, Path (World.fresh config surroundings : World σ Mark) world := by
  obtain ⟨config, surroundings, onward⟩ := attained.onward
  exact ⟨config, surroundings, onward.path (.fresh config surroundings)⟩

theorem sound (attained : Attained world) : world.Sound := by
  obtain ⟨config, surroundings, path⟩ := attained.path
  exact path.sound (.fresh config surroundings)

/-- What a fresh world has and every stride keeps, attained worlds have. -/
theorem invariant {holds : World σ Mark → Prop} (attained : Attained world)
    (begins : ∀ config surroundings, holds (.fresh config surroundings))
    (keeps : ∀ {before after : World σ Mark}, before.Sound → holds before →
      Stride before after → holds after) : holds world := by
  obtain ⟨config, surroundings, path⟩ := attained.path
  exact path.invariant (.fresh config surroundings) (begins config surroundings) keeps

/-- What every turn of a held lifecycle keeps holds of every registration. -/
theorem registration {holds : Lifecycle → List Deed → Prop} (attained : Attained world)
    (begins : holds {} [])
    (keeps : ∀ {life next : Lifecycle} {deeds told : List Deed}, life.Held → holds life deeds →
      Turn life deeds next told → holds next told) (id : EntryId) :
    holds (world.life id) (world.deeds id) := by
  obtain ⟨config, surroundings, path⟩ := attained.path
  exact path.registration (.fresh config surroundings) (fun _ => begins) keeps id

/-- The state of a registration tells which of its callbacks have begun. -/
theorem reflects (attained : Attained world) (id : EntryId) :
    (world.life id).Reflects (world.deeds id) :=
  attained.registration .fresh (fun held reflects turn => reflects.turn held turn) id

end Attained

end Paths

end TransportBridge
