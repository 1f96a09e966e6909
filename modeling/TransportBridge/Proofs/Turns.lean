import TransportBridge.Proofs.RunPaths

/-!
Contract: what a run does to one registration.

A stride changes one registration at most. Seen from a registration, a run is a
sequence of turns of its lifecycle and its deeds, and what every turn keeps
holds of all registrations of a reachable world.
-/

namespace TransportBridge

/-- One turn of a registration, from a lifecycle and deeds to the next ones. -/
inductive Turn : Lifecycle → List Deed → Lifecycle → List Deed → Prop where
  | idle (life : Lifecycle) (deeds : List Deed) : Turn life deeds life deeds
  | registered (target : TargetId) (deeds : List Deed) :
      Turn {} deeds { pin := some target } deeds
  | called {life next : Lifecycle} {event : SocketEvent} {target : TargetId}
      (accepts : life.Accepts event target next) (deeds : List Deed) :
      Turn life deeds next (deeds ++ [.callback event.kind])
  | missed {life left : Lifecycle} {event : SocketEvent} (misses : life.Misses event left)
      (deeds : List Deed) : Turn life deeds left deeds
  | opened (life : Lifecycle) {deeds : List Deed} (begun : .callback .openRequest ∈ deeds) :
      Turn life deeds life.finishOpen.2 deeds
  | settled {life : Lifecycle} {outcome : Option Teardown × Lifecycle}
      (given : life.releaseNative = .ok outcome) (deeds : List Deed) :
      Turn life deeds outcome.2 deeds
  | forwarded {life next : Lifecycle} {limit : Nat} {call : EngineCall}
      (forwards : life.Forwards limit call next) (deeds : List Deed) :
      Turn life deeds next (deeds ++ [.forwarded call])
  | retained {life next : Lifecycle} {references : Nat}
      (taken : life.retain = .ok (references, next)) (deeds : List Deed) :
      Turn life deeds next (deeds ++ [.retained references])
  | released {life : Lifecycle} {outcome : Option Teardown × Lifecycle}
      (given : life.release = .ok outcome) (deeds : List Deed) :
      Turn life deeds outcome.2 (deeds ++ [.release .done])
  | unreleased {life : Lifecycle} {refusal : Refusal} (refused : life.release = .error refusal)
      (handle : Handle) (deeds : List Deed) :
      Turn life deeds life (deeds ++ [.release (.rejected (refusal.toError handle))])

/-- Where one item is in a list that has grown by another. -/
theorem split_concat {α : Type} {items earlier later : List α} {last pivot : α}
    (split : items ++ [last] = earlier ++ pivot :: later) :
    (later = [] ∧ earlier = items ∧ pivot = last) ∨
    ∃ rest, later = rest ++ [last] ∧ items = earlier ++ pivot :: rest := by
  rcases List.eq_nil_or_concat later with rfl | ⟨rest, final, rfl⟩
  · obtain ⟨rfl, same⟩ := List.append_inj' split rfl
    exact .inl ⟨rfl, rfl, (List.singleton_inj.mp same).symm⟩
  · have grown : items ++ [last] = (earlier ++ pivot :: rest) ++ [final] := by
      rw [split, List.concat_eq_append, List.append_assoc, List.cons_append]
    obtain ⟨rfl, same⟩ := List.append_inj' grown rfl
    obtain rfl := List.singleton_inj.mp same
    exact .inr ⟨rest, List.concat_eq_append, rfl⟩

variable {σ : Type} {world after : World σ Mark} {peer : Peer}

/-- A stride that is no deed is the turn of one registration. -/
private theorem turn_of_untold (genuine : world.Genuine peer) {next : Lifecycle}
    (lives : ∀ id, after.life id = (world.setLife peer.entry next).life id)
    (deeds : ∀ id, after.deeds id = world.deeds id)
    (own : Turn (world.life peer.entry) (world.deeds peer.entry) next (world.deeds peer.entry))
    (id : EntryId) : Turn (world.life id) (world.deeds id) (after.life id) (after.deeds id) := by
  obtain ⟨entry, found, _⟩ := genuine
  rw [lives, deeds]
  by_cases same : id = peer.entry
  · subst same
    rw [World.life_setLife_self found]
    exact own
  · rw [World.life_setLife_of_ne next same]
    exact .idle _ _

/-- A stride that is a deed is the turn of the registration that it is of. -/
private theorem turn_of_told (genuine : world.Genuine peer) {next : Lifecycle}
    {ready : World σ Mark} {moment : Moment Mark} {deed : Deed}
    (lives : ∀ id, ready.life id = (world.setLife peer.entry next).life id)
    (deeds : ∀ id, ready.deeds id = world.deeds id)
    (tells : ∀ id, moment.deed? id = if peer.entry = id then some deed else none)
    (own : Turn (world.life peer.entry) (world.deeds peer.entry) next
      (world.deeds peer.entry ++ [deed])) (id : EntryId) :
    Turn (world.life id) (world.deeds id) ((ready.push moment).life id)
      ((ready.push moment).deeds id) := by
  obtain ⟨entry, found, _⟩ := genuine
  have same : (ready.push moment).life id = ready.life id := rfl
  rw [same, lives, World.deeds_push, deeds, tells]
  by_cases own' : peer.entry = id
  · subst own'
    rw [World.life_setLife_self found, if_pos rfl]
    exact own
  · rw [World.life_setLife_of_ne next (Ne.symm own'), if_neg own', Option.toList_none,
      List.append_nil]
    exact .idle _ _

/-- Every stride is a turn of each registration, an idle one for all but one. -/
theorem Stride.turn (stride : Stride world after) (id : EntryId) :
    Turn (world.life id) (world.deeds id) (after.life id) (after.deeds id) := by
  cases stride with
  | plain plain =>
      rw [plain.life, plain.deeds]
      exact .idle _ _
  | @registered _ registry handle target inserted plain =>
      rw [plain.life, plain.deeds, World.life_enrolled]
      have told : (world.enrolled registry handle target).deeds id = world.deeds id := rfl
      rw [told]
      split
      · next new =>
          rw [new, World.life_of_absent (World.entry?_new world)]
          exact .registered target _
      · exact .idle _ _
  | called genuine accepts plain attached =>
      exact turn_of_told genuine plain.life plain.deeds (fun _ => rfl) (.called accepts _) id
  | missed genuine misses plain =>
      exact turn_of_untold genuine plain.life plain.deeds (.missed misses _) id
  | opened genuine begun plain =>
      exact turn_of_untold genuine plain.life plain.deeds (.opened _ begun) id
  | settled genuine given plain =>
      refine turn_of_untold genuine (fun other => ?_) (fun other => ?_) (.settled given _) id
      · rw [plain.life, World.life_concluded]
      · rw [plain.deeds, World.deeds_concluded]
  | @forwarded ready peer call next genuine forwards plain =>
      refine turn_of_told genuine plain.life plain.deeds ?_ (.forwarded forwards _) id
      intro other
      simp [Moment.deed?]
  | retained genuine taken plain =>
      exact turn_of_told genuine plain.life plain.deeds (fun _ => rfl) (.retained taken _) id
  | released genuine given plain =>
      refine turn_of_told genuine (fun other => ?_) (fun other => ?_) (fun other => ?_)
        (.released given _) id
      · rw [plain.life, World.life_concluded]
      · rw [plain.deeds, World.deeds_concluded]
      · simp [Moment.deed?, Mark.deed?]
  | @unreleased ready peer refusal genuine refused plain =>
      refine turn_of_told genuine (fun other => ?_) plain.deeds (fun other => ?_)
        (.unreleased refused peer.handle _) id
      · rw [plain.life, World.setLife_life]
      · simp [Moment.deed?, Mark.deed?]

/-- What every turn of a held lifecycle keeps holds of all registrations along
a path. -/
theorem Path.registration {holds : Lifecycle → List Deed → Prop} (path : Path world after)
    (sound : world.Sound) (begins : ∀ id, holds (world.life id) (world.deeds id))
    (keeps : ∀ {life next : Lifecycle} {deeds told : List Deed}, life.Held → holds life deeds →
      Turn life deeds next told → holds next told) (id : EntryId) :
    holds (after.life id) (after.deeds id) := by
  let everywhere (world : World σ Mark) : Prop := ∀ id, holds (world.life id) (world.deeds id)
  have all : everywhere after := path.invariant sound begins
    fun sound held stride id => keeps (sound.life_held id) (held id) (stride.turn id)
  exact all id

/-- What holds of a lifecycle and its deeds at the start, and what every turn
of a held lifecycle keeps, holds of every registration. -/
theorem Reachable.registration [Custodian σ] {holds : Lifecycle → List Deed → Prop}
    (reached : Reachable world) (begins : holds {} [])
    (keeps : ∀ {life next : Lifecycle} {deeds told : List Deed}, life.Held → holds life deeds →
      Turn life deeds next told → holds next told) (id : EntryId) :
    holds (world.life id) (world.deeds id) := by
  obtain ⟨config, surroundings, evolves⟩ := reached.evolved
  exact evolves.path.registration (.fresh config surroundings) (fun _ => begins) keeps id

end TransportBridge
