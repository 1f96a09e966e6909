import TransportBridge.Proofs.Runs

/-!
Contract: how computations of the bridge run, and what a change of one
lifecycle leaves alone.

Owns: the equations of sequencing for effects and for calls, of cleaning up,
and of the primitive effects; the frame laws of `World.setLife` and
`World.push`.
-/

namespace TransportBridge

/-! ## Sequencing -/

section Sequencing

variable {σ μ α β : Type}

theorem bind_of_ok {first : BridgeM σ μ α} {next : α → BridgeM σ μ β} {world mid : World σ μ}
    {result : α} (ran : first world = (.ok result, mid)) :
    (first >>= next) world = next result mid := by
  show ExceptT.bindCont next (first world).1 (first world).2 = _
  rw [ran]
  rfl

theorem bind_of_error {first : BridgeM σ μ α} {next : α → BridgeM σ μ β}
    {world mid : World σ μ} {panic : Panic} (ran : first world = (.error panic, mid)) :
    (first >>= next) world = (.error panic, mid) := by
  show ExceptT.bindCont next (first world).1 (first world).2 = _
  rw [ran]
  rfl

/-- What follows depends on how the first part ends, and not on where it began. -/
theorem bindRun_congr {first other : BridgeM σ μ α} {next : α → BridgeM σ μ β}
    {world middle : World σ μ} (same : first world = other middle) :
    (first >>= next) world = (other >>= next) middle := by
  show ExceptT.bindCont next (first world).1 (first world).2 = _
  rw [same]
  rfl

theorem effect_of_ok {body : BridgeM σ μ α} {world after : World σ μ} {result : α}
    (ran : body world = (.ok result, after)) :
    effect body world = (.ok (.ok result), after) :=
  bind_of_ok ran

theorem effect_of_error {body : BridgeM σ μ α} {world after : World σ μ} {panic : Panic}
    (ran : body world = (.error panic, after)) :
    effect body world = (.error panic, after) :=
  bind_of_error ran

theorem callBind_of_ok {first : Call σ μ α} {next : α → Call σ μ β} {world mid : World σ μ}
    {result : α} (ran : first world = (.ok (.ok result), mid)) :
    (first >>= next) world = next result mid :=
  bind_of_ok (show first.run world = (.ok (.ok result), mid) from ran)

theorem callBind_of_rejected {first : Call σ μ α} {next : α → Call σ μ β}
    {world mid : World σ μ} {error : BridgeError} (ran : first world = (.ok (.error error), mid)) :
    (first >>= next) world = (.ok (.error error), mid) :=
  bind_of_ok (show first.run world = (.ok (.error error), mid) from ran)

theorem callBind_of_panicked {first : Call σ μ α} {next : α → Call σ μ β}
    {world mid : World σ μ} {panic : Panic} (ran : first world = (.error panic, mid)) :
    (first >>= next) world = (.error panic, mid) :=
  bind_of_error (show first.run world = (.error panic, mid) from ran)

theorem effectBind_of_ok {first : BridgeM σ μ α} {next : α → Call σ μ β}
    {world mid : World σ μ} {result : α} (ran : first world = (.ok result, mid)) :
    (effect first >>= next) world = next result mid :=
  callBind_of_ok (effect_of_ok ran)

theorem effectBind_of_error {first : BridgeM σ μ α} {next : α → Call σ μ β}
    {world mid : World σ μ} {panic : Panic} (ran : first world = (.error panic, mid)) :
    (effect first >>= next) world = (.error panic, mid) :=
  callBind_of_panicked (effect_of_error ran)

theorem ensuring_of_ok {body : BridgeM σ μ α} {cleanup : BridgeM σ μ Unit}
    {world mid after : World σ μ} {outcome : Except Panic α}
    (ran : body world = (outcome, mid)) (cleaned : cleanup mid = (.ok (), after)) :
    ensuring body cleanup world = (outcome, after) := by
  unfold ensuring
  rw [ran]
  cases outcome with
  | ok result => simp only [cleaned]
  | error panic => simp only [cleaned]

theorem ensuring_congr {body other : BridgeM σ μ α} {cleanup : BridgeM σ μ Unit}
    {world middle : World σ μ} (same : body world = other middle) :
    ensuring body cleanup world = ensuring other cleanup middle := by
  unfold ensuring
  rw [same]

theorem onPanic_of_ok {body : BridgeM σ μ α} {cleanup : BridgeM σ μ Unit}
    {world after : World σ μ} {result : α} (ran : body world = (.ok result, after)) :
    onPanic body cleanup world = (.ok result, after) := by
  unfold onPanic
  rw [ran]

theorem onPanic_of_error {body : BridgeM σ μ α} {cleanup : BridgeM σ μ Unit}
    {world mid : World σ μ} {panic : Panic} (ran : body world = (.error panic, mid)) :
    onPanic body cleanup world = (.error panic, (cleanup mid).2) := by
  unfold onPanic
  rw [ran]

theorem catchPanic_eq (body : BridgeM σ μ α) (world : World σ μ) :
    catchPanic body world = (.ok (body world).1, (body world).2) := by
  unfold catchPanic
  split <;> next ran => rw [ran]

/-! ### Back from how a sequence ends -/

theorem bind_ok {first : BridgeM σ μ α} {next : α → BridgeM σ μ β} {world after : World σ μ}
    {last : β} (ran : (first >>= next) world = (.ok last, after)) :
    ∃ result middle, first world = (.ok result, middle) ∧
      next result middle = (.ok last, after) := by
  cases began : first world with
  | mk outcome middle =>
      cases outcome with
      | error panic =>
          rw [bind_of_error began] at ran
          cases ran
      | ok result =>
          rw [bind_of_ok began] at ran
          exact ⟨result, middle, rfl, ran⟩

/-- A call that is rejected was so at once, or later on. -/
theorem callBind_rejected {first : Call σ μ α} {next : α → Call σ μ β} {world after : World σ μ}
    {error : BridgeError} (ran : (first >>= next) world = (.ok (.error error), after)) :
    first world = (.ok (.error error), after) ∨
    ∃ result middle, first world = (.ok (.ok result), middle) ∧
      next result middle = (.ok (.error error), after) := by
  cases began : first world with
  | mk outcome middle =>
      rcases outcome with panic | refusal | result
      · rw [callBind_of_panicked began] at ran
        cases ran
      · rw [callBind_of_rejected began] at ran
        cases ran
        exact .inl rfl
      · rw [callBind_of_ok began] at ran
        exact .inr ⟨result, middle, rfl, ran⟩

theorem effect_ok {body : BridgeM σ μ α} {world after : World σ μ} {result : α}
    (ran : effect body world = (.ok (.ok result), after)) : body world = (.ok result, after) := by
  obtain ⟨found, _, began, ended⟩ := bind_ok ran
  cases ended
  exact began

theorem effect_not_rejected {body : BridgeM σ μ α} {world after : World σ μ}
    {error : BridgeError} : effect body world ≠ (.ok (.error error), after) := by
  intro ran
  obtain ⟨_, _, _, ended⟩ := bind_ok ran
  cases ended

/-- An effect rejects nothing, so that what follows it answers. -/
theorem effectBind_ok {first : BridgeM σ μ α} {next : α → Call σ μ β} {world after : World σ μ}
    {answer : Except BridgeError β}
    (ran : (effect first >>= next) world = (.ok answer, after)) :
    ∃ result middle, first world = (.ok result, middle) ∧
      next result middle = (.ok answer, after) := by
  cases began : first world with
  | mk outcome middle =>
      cases outcome with
      | error panic =>
          rw [effectBind_of_error began] at ran
          cases ran
      | ok result =>
          rw [effectBind_of_ok began] at ran
          exact ⟨result, middle, rfl, ran⟩

theorem onPanic_ok {body : BridgeM σ μ α} {cleanup : BridgeM σ μ Unit} {world after : World σ μ}
    {result : α} (ran : onPanic body cleanup world = (.ok result, after)) :
    body world = (.ok result, after) := by
  cases began : body world with
  | mk outcome middle =>
      cases outcome with
      | error panic =>
          rw [onPanic_of_error began] at ran
          cases ran
      | ok first =>
          rw [onPanic_of_ok began] at ran
          exact ran

theorem change_runs {id : EntryId} {step : Lifecycle → α × Lifecycle} {world after : World σ μ}
    {result : α} (ran : change id step world = (.ok result, after)) :
    result = (step (world.life id)).1 ∧ after = world.setLife id (step (world.life id)).2 := by
  obtain ⟨same, moved⟩ := Prod.mk.inj ran
  exact ⟨(Except.ok.inj same).symm, moved.symm⟩

theorem ensuring_ok {body : BridgeM σ μ α} {cleanup : BridgeM σ μ Unit} {world after : World σ μ}
    {result : α} (ran : ensuring body cleanup world = (.ok result, after)) :
    ∃ middle, body world = (.ok result, middle) ∧ cleanup middle = (.ok (), after) := by
  unfold ensuring at ran
  cases began : body world with
  | mk outcome middle =>
      cases outcome with
      | error panic =>
          rw [began] at ran
          cases ran
      | ok first =>
          rw [began] at ran
          cases cleaned : cleanup middle with
          | mk answer last =>
              cases answer with
              | error panic =>
                  simp only [cleaned] at ran
                  cases ran
              | ok nothing =>
                  simp only [cleaned] at ran
                  obtain ⟨same, rfl⟩ := Prod.mk.inj ran
                  obtain rfl := Except.ok.inj same
                  exact ⟨middle, rfl, cleaned⟩

end Sequencing

/-! ## Open requests -/

/-- What an open request does with the registration of its handle, which is held
for it. -/
def Delivery.opening {σ μ : Type} [Custodian σ] (host : Host σ μ) (handle : Handle)
    (address : Address) (options : Bytes) (peer : Peer) : Call σ μ Unit := do
  let target ← References.checked .own peer Lifecycle.beginOpen
  deliverOr host peer target (.openRequest address options) (undoing peer Lifecycle.abortOpen)
  if ← effect (change peer.entry Lifecycle.finishOpen) then
    effect (note (.opened handle))

/-! ## Lifecycles of entries -/

namespace World

variable {σ μ : Type}

theorem life_of_entry {world : World σ μ} {id : EntryId} {entry : Entry}
    (found : world.entry? id = some entry) : world.life id = entry.life := by
  unfold life
  rw [found]

theorem life_of_absent {world : World σ μ} {id : EntryId} (absent : world.entry? id = none) :
    world.life id = {} := by
  unfold life
  rw [absent]

theorem life_of_entries {world after : World σ μ} (entries : after.entries = world.entries)
    (id : EntryId) : after.life id = world.life id := by
  unfold life entry?
  rw [entries]

theorem entry?_setLife (world : World σ μ) (id other : EntryId) (life : Lifecycle) :
    World.entry? (world.setLife id life) other =
      if other = id then (world.entry? id).map fun entry => { entry with life }
      else world.entry? other := by
  unfold entry? setLife
  by_cases same : other = id
  · subst same
    simp [Array.getElem?_modify]
  · have different : id.index ≠ other.index := by
      intro equal
      exact same (by cases id; cases other; simp_all)
    simp [Array.getElem?_modify, same, different]

theorem life_setLife_of_ne {world : World σ μ} {id other : EntryId} (life : Lifecycle)
    (different : other ≠ id) : (world.setLife id life).life other = world.life other := by
  unfold World.life
  rw [entry?_setLife, if_neg different]

theorem life_setLife_self {world : World σ μ} {id : EntryId} {entry : Entry}
    (found : world.entry? id = some entry) (life : Lifecycle) :
    (world.setLife id life).life id = life := by
  have replaced : World.entry? (world.setLife id life) id = some { entry with life } := by
    rw [entry?_setLife, if_pos rfl, found]
    rfl
  exact life_of_entry replaced

@[simp] theorem setLife_setLife (world : World σ μ) (id : EntryId) (first second : Lifecycle) :
    (world.setLife id first).setLife id second = world.setLife id second := by
  unfold setLife
  congr 1
  apply Array.ext
  · simp
  · intro index _ _
    simp only [Array.getElem_modify]
    split <;> rfl

/-- A lifecycle that is put where it is changes nothing. -/
theorem setLife_life (world : World σ μ) (id : EntryId) :
    world.setLife id (world.life id) = world := by
  unfold setLife
  have same : world.entries.modify id.index (fun entry => { entry with life := world.life id }) =
      world.entries := by
    apply Array.ext
    · simp
    · intro index _ bound
      simp only [Array.getElem_modify]
      split
      · next equal =>
          have found : world.entry? id = some world.entries[index] := by
            unfold entry?
            rw [equal]
            exact Array.getElem?_eq_getElem bound
          exact congrArg (fun life => { world.entries[index] with life }) (life_of_entry found)
      · rfl
  rw [same]

/-- One moment more, as far as it counts. -/
theorem filterMap_push {α : Type} (world : World σ μ) (moment : Moment μ)
    (counts : Moment μ → Option α) :
    (world.push moment).trace.toList.filterMap counts =
      world.trace.toList.filterMap counts ++ (counts moment).toList := by
  unfold push
  rw [Array.toList_push, List.filterMap_append]
  cases counted : counts moment <;> simp [counted]

@[simp] theorem deeds_push (world : World σ Mark) (moment : Moment Mark) (id : EntryId) :
    (world.push moment).deeds id = world.deeds id ++ (moment.deed? id).toList :=
  world.filterMap_push moment (Moment.deed? id)

end World

end TransportBridge
