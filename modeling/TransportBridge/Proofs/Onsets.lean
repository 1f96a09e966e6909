import TransportBridge.Proofs.Quiet
import TransportBridge.Proofs.Undelivered

/-!
Contract: how the callback of an accepted event begins.

Where a context can be had, the callback of an accepted event begins. All that
is done before is to hold the target and to attach the thread, and all that is
done after it is quiet, until the native reference is given up.

Owns: the world in which a callback begins, and what follows from its return.

Does not own: what the callback does, and which events are accepted.
-/

namespace TransportBridge

variable {σ α : Type} {world told : World σ Mark}

namespace World

/-- A callback begins: the target is held and the thread attached, and nothing
else has changed. -/
def Begins (before : World σ Mark) (peer : Peer) (target : TargetId) (event : SocketEvent)
    (begun : World σ Mark) : Prop :=
  ∃ attached, (before.lending target).Unmoved [.callback peer target event attached] begun

namespace Begins

variable {peer : Peer} {target : TargetId} {event : SocketEvent} {begun : World σ Mark}

theorem host (begins : world.Begins peer target event begun) : begun.host = world.host := by
  obtain ⟨_, ⟨_, _, _⟩⟩ := begins
  rfl

theorem entries (begins : world.Begins peer target event begun) :
    begun.entries = world.entries := by
  obtain ⟨_, ⟨_, _, _⟩⟩ := begins
  rfl

theorem life (begins : world.Begins peer target event begun) (id : EntryId) :
    begun.life id = world.life id :=
  World.life_of_entries begins.entries id

/-- All that is done is to begin the callback. -/
theorem acts (begins : world.Begins peer target event begun) :
    ∃ attached, begun.acts = world.acts ++ [.callback peer target event attached] := by
  obtain ⟨attached, ⟨_, _, acts⟩⟩ := begins
  exact ⟨attached, acts⟩

theorem genuine (begins : world.Begins peer target event begun) (genuine : world.Genuine peer) :
    begun.Genuine peer := by
  obtain ⟨_, ⟨_, _, _⟩⟩ := begins
  exact genuine

theorem sound (begins : world.Begins peer target event begun) (sound : world.Sound) :
    begun.Sound := by
  obtain ⟨_, unmoved⟩ := begins
  have lendingSound : (world.lending target).Sound := sound.of_same rfl rfl
  exact unmoved.sound lendingSound

end Begins

end World

/-! ## Contexts that can be had -/

namespace Attachment

/-- The thread is attached, and nothing else comes before the thunk, or no context
can be had, as the runtime does not work. -/
theorem withAttachedContext_onset (operation : String)
    (thunk : RuntimeContext → BridgeM σ Mark α) :
    (¬ world.runtime.Works ∧ ∃ error missed, error.kind = .runtimeAttachment ∧
      withAttachedContext operation thunk world = (.ok (.error error), missed)) ∨
    ∃ context ready held, world.Unmoved [] ready ∧
      withAttachedContext operation thunk world =
        (do return .ok (← ensuring (thunk context) (drop held)) :
          BridgeM σ Mark (Except BridgeError α)) ready := by
  cases course operation world with
  | refused attaching runs =>
      obtain ⟨_, rfl⟩ := attaching.error_eq
      exact .inl ⟨attaching.not_works, _, _, rfl, runs thunk⟩
  | faulty attaching fault _ runs =>
      exact .inl ⟨attaching.not_works_of_fault fault, _, _, rfl, runs thunk⟩
  | granted attaching runs =>
      exact .inr ⟨_, _, _, attaching.unmoved.trans (.faultTaken _), runs thunk⟩

end Attachment

namespace Delivery

variable [Custodian σ]

/-- An event that is to be delivered is, and ends as its callback does, or it is
rejected for want of a context, as the runtime does not work. -/
theorem deliver_onset (host : Host σ Mark) (sound : world.Sound) (peer : Peer)
    (target : TargetId) (event : SocketEvent) :
    (¬ world.runtime.Works ∧ ∃ error missed, error.kind = .runtimeAttachment ∧
      deliver host peer target event world = (.ok (.error error), missed)) ∨
    ∃ begun, world.Begins peer target event begun ∧
      ∀ {outcome told}, host.callback peer target event begun = (outcome, told) → told.Sound →
        ∃ charge after, deliver host peer target event world = (outcome.map .ok, after) ∧
          told.Quiet [] charge after := by
  have noting : (world.lending target).Unmoved [] (world.dispatching peer target event) :=
    .note (world.lending target) _
  rcases Attachment.withAttachedContext_onset event.name
    (fun _ => invoke host peer target event) with
    ⟨unready, error, missed, wanting, context⟩ | ⟨_, ready, held, unmoved, granted⟩
  · obtain ⟨_, untouched⟩ := Attachment.withAttachedContext_rejected context
    have dispatchingSound : (world.dispatching peer target event).Sound := sound.of_same rfl rfl
    obtain ⟨_, given, give, _⟩ :=
      Custody.giveBack_quietly (untouched.unmoved.sound dispatchingSound) target
    exact .inl ⟨unready, error, _, wanting, deliver_missed context give⟩
  · let begun := ready.calling peer target event
    have beginning : ready.Unmoved [.callback peer target event ready.attached?] begun :=
      .intro _ _ (ready.acts_push _)
    refine .inr ⟨begun, ⟨ready.attached?, (noting.trans unmoved).trans beginning⟩,
      fun {outcome told} returned sound => ?_⟩
    obtain ⟨_, dropped, drop, dropping⟩ : Quietly (Attachment.drop held) [] 0 told :=
      Attachment.drop_quietly held
    obtain ⟨_, given, give, giving⟩ :=
      Custody.giveBack_quietly (sound.plain dropping.toPlain) target
    have ended := dropping.then_still giving
    have ran := deliver_called granted returned drop give
    cases outcome with
    | error panic => exact ⟨_, given, ran, ended⟩
    | ok nothing => exact ⟨_, _, ran, ended.trans (.dispatched given)⟩

end Delivery

end TransportBridge
