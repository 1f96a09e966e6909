import TransportBridge.Proofs.Dealing

/-!
Contract: every hook that runs has come with a buffer, and no buffer runs it
twice.

Reports deal hooks out, and a queue runs what has been dealt to it. So what has
run, what waits, and what is still to be dealt out are together no more than
what has come in.

Owns: the ledger of hooks, and that every grain keeps it and the files of all
registrations.
-/

namespace TransportBridge

/-- What begins no callback and runs no hook is silent in the trace. -/
private theorem Moment.silent_pushed {moment : Moment Mark} (silent : moment.isCallback = false)
    (hookless : moment.hook? = none) :
    ∀ told ∈ if moment.isNotice then [] else [moment],
      told.isCallback = false ∧ told.hook? = none := by
  cases moment.isNotice with
  | true => exact List.forall_mem_nil _
  | false => exact List.forall_mem_singleton.mpr ⟨silent, hookless⟩

/-- How many bytes the deed acknowledges. -/
def Deed.acknowledges : Deed → Nat
  | .forwarded call => call.acknowledges
  | _ => 0

section Grains

variable {σ : Type}

namespace World

variable {world after : World σ Mark}

/-! ## Grains -/

/-- The buffers that have come in for the registration, in order. -/
def arrived (world : World σ Mark) (id : EntryId) : List (NativeBuffer Hook) :=
  (world.reading.arrivals.filter (·.entry = id)).map (·.data)

/-- How many of the registration's bytes have been acknowledged. -/
def acknowledged (world : World σ Mark) (id : EntryId) : Nat :=
  ((world.deeds id).map Deed.acknowledges).sum

/-- How often the hook waits in the queues of all registrations. -/
def waits (world : World σ Mark) (hook : Hook) : Nat :=
  (world.entries.toList.map fun entry => (waiting entry.life.receives).count hook).sum

/-- The queue of a registration is handled; hooks run over that, or because a
report has dropped its buffer. -/
structure Handles (before : World σ Mark) (id : EntryId) (came : List (NativeBuffer Hook))
    (count : Nat) (hooks loose : List Hook) (after : World σ Mark) : Prop where
  own : Lifecycle.Handling (before.life id) came count hooks (after.life id)
  others : ∀ other, other ≠ id → after.life other = before.life other
  arrived : ∀ other, after.arrived other = before.arrived other ++ if other = id then came else []
  acknowledged : ∀ other,
    after.acknowledged other = before.acknowledged other + if other = id then count else 0
  ran : after.hooksRun = before.hooksRun ++ (hooks ++ loose)
  waits : ∀ hook,
    after.waits hook + hooks.count hook = before.waits hook + (lentBy came).count hook
  deals : before.reading.Deals (lentBy came ++ loose) after.reading

/-- A total over a list after one item has changed. -/
private theorem sum_modify {α : Type} {items : List α} {index : Nat} {item : α}
    (found : items[index]? = some item) (size : α → Nat) (change : α → α) :
    ((items.modify index change).map size).sum + size item =
      (items.map size).sum + size (change item) := by
  induction items generalizing index with
  | nil => cases found
  | cons first rest inductionHypothesis =>
      cases index with
      | zero =>
          obtain rfl := Option.some.inj found
          simp only [List.modify_zero_cons, List.map_cons, List.sum_cons]
          omega
      | succ index =>
          have others := inductionHypothesis found
          simp only [List.modify_succ_cons, List.map_cons, List.sum_cons]
          omega

theorem waits_setLife {id : EntryId} {entry : Entry} (found : world.entry? id = some entry)
    (next : Lifecycle) (hook : Hook) :
    (world.setLife id next).waits hook + (waiting (world.life id).receives).count hook =
      world.waits hook + (waiting next.receives).count hook := by
  have listed : world.entries.toList[id.index]? = some entry := by
    rw [Array.getElem?_toList]
    exact found
  rw [life_of_entry found]
  unfold waits setLife
  rw [Array.toList_modify]
  exact sum_modify listed (fun entry => (waiting entry.life.receives).count hook) _

theorem arrived_of_silent {done : List (Moment Mark)} (acts : after.acts = world.acts ++ done)
    (silent : ∀ moment ∈ done, moment.isCallback = false) (id : EntryId) :
    after.arrived id = world.arrived id := by
  unfold arrived
  rw [reading_of_acts acts, Reading.arrivals_foldl _ silent]

/-- The queue of one registration is handled. -/
theorem Handles.of_setLife {peer : Peer} {next : Lifecycle} {came : List (NativeBuffer Hook)}
    {count : Nat} {hooks : List Hook} (genuine : world.Genuine peer)
    (handling : Lifecycle.Handling (world.life peer.entry) came count hooks next)
    (entries : after.entries = (world.setLife peer.entry next).entries)
    (arrived : ∀ other,
      after.arrived other = world.arrived other ++ if other = peer.entry then came else [])
    (acknowledged : ∀ other,
      after.acknowledged other = world.acknowledged other + if other = peer.entry then count else 0)
    (ran : after.hooksRun = world.hooksRun ++ hooks)
    (deals : world.reading.Deals (lentBy came) after.reading) :
    world.Handles peer.entry came count hooks [] after := by
  obtain ⟨entry, found, _⟩ := genuine
  refine ⟨?_, fun other different => ?_, arrived, acknowledged, ?_, fun hook => ?_, ?_⟩
  · rw [life_of_entries entries, life_setLife_self found]
    exact handling
  · rw [life_of_entries entries, life_setLife_of_ne next different]
  · rw [ran, List.append_nil]
  · have fifo := congrArg (List.count hook) handling.fifo
    have moved := waits_setLife found next hook
    have same : after.waits hook = (world.setLife peer.entry next).waits hook := by
      unfold World.waits
      rw [entries]
    rw [List.count_append, List.count_append] at fifo
    omega
  · rw [List.append_nil]
    exact deals

/-- No queue is handled. -/
theorem Handles.of_idle {done : List (Moment Mark)} {loose : List Hook}
    (entries : after.entries = world.entries) (acts : after.acts = world.acts ++ done)
    (silent : ∀ moment ∈ done, moment.isCallback = false)
    (hooks : done.filterMap Moment.hook? = loose)
    (acknowledged : ∀ id, after.acknowledged id = world.acknowledged id)
    (deals : world.reading.Deals loose after.reading) :
    world.Handles ⟨0⟩ [] 0 [] loose after := by
  refine ⟨?_, fun other _ => life_of_entries entries other, fun other => ?_, fun other => ?_,
    ?_, fun hook => ?_, deals⟩
  · rw [life_of_entries entries]
    exact .refl _
  · rw [arrived_of_silent acts silent, ite_self, List.append_nil]
  · rw [acknowledged, ite_self, Nat.add_zero]
  · rw [hooksRun_of_acts acts, hooks]
    rfl
  · unfold World.waits
    rw [entries]
    rfl

theorem entries_concluded (world : World σ Mark) (peer : Peer)
    (outcome : Option Teardown × Lifecycle) :
    (world.concluded peer outcome).entries = (world.setLife peer.entry outcome.2).entries := by
  obtain ⟨remains, next⟩ := outcome
  cases remains <;> rfl

theorem acts_concluded (world : World σ Mark) (peer : Peer)
    (outcome : Option Teardown × Lifecycle) : (world.concluded peer outcome).acts = world.acts := by
  obtain ⟨remains, next⟩ := outcome
  cases remains <;> rfl

theorem ended_concluded (world : World σ Mark) (peer : Peer)
    (outcome : Option Teardown × Lifecycle) :
    (world.concluded peer outcome).reading.ended = world.reading.ended :=
  congrArg (fun acts => (acts.foldl Reading.read {}).ended) (acts_concluded world peer outcome)

/-- Only calls that go on to the engine acknowledge anything. -/
theorem acknowledged_push (world : World σ Mark) (moment : Moment Mark) (id : EntryId) :
    (world.push moment).acknowledged id =
      world.acknowledged id + ((moment.deed? id).toList.map Deed.acknowledges).sum := by
  unfold acknowledged
  rw [deeds_push, List.map_append, List.sum_append]

theorem acknowledged_mark (world : World σ Mark) (mark : Mark) (id : EntryId) :
    (world.push (.marked mark)).acknowledged id = world.acknowledged id := by
  have nothing : (mark.deed? id).toList.map Deed.acknowledges = [] ∨
      (mark.deed? id).toList.map Deed.acknowledges = [0] := by
    unfold Mark.deed?
    split <;> try split
    all_goals first | exact .inl rfl | exact .inr rfl
  rw [acknowledged_push]
  rcases nothing with none | zero
  · show _ + ((mark.deed? id).toList.map Deed.acknowledges).sum = _
    rw [none]
    rfl
  · show _ + ((mark.deed? id).toList.map Deed.acknowledges).sum = _
    rw [zero]
    rfl

/-- A new registration has an empty queue. -/
theorem Handles.of_enrolled {registry : Registry} {handle : Handle} {target : TargetId}
    (entries : after.entries = (world.enrolled registry handle target).entries)
    (acts : after.acts = world.acts) (deeds : ∀ id, after.deeds id = world.deeds id) :
    world.Handles ⟨world.entries.size⟩ [] 0 [] [] after := by
  have lives (id : EntryId) : after.life id =
      if id = ⟨world.entries.size⟩ then { pin := some target } else world.life id :=
    (life_of_entries entries id).trans (life_enrolled world registry handle target id)
  have reading : after.reading = world.reading := congrArg (List.foldl Reading.read {}) acts
  refine ⟨?_, fun other different => ?_, fun other => ?_, fun other => ?_, ?_, fun hook => ?_, ?_⟩
  · rw [lives, if_pos rfl, life_of_absent (entry?_new world)]
    exact .untouched rfl rfl id
  · rw [lives, if_neg different]
  · unfold World.arrived
    rw [reading, ite_self, List.append_nil]
  · unfold World.acknowledged
    rw [deeds, ite_self, Nat.add_zero]
  · unfold hooksRun
    rw [acts]
    exact (List.append_nil _).symm
  · unfold World.waits
    rw [entries]
    simp [enrolled, waiting, lentBy]
  · rw [reading]
    exact .refl _

/-! ## The ledger -/

/-- What has run, what waits and what can still be dealt out has come in, and
only once; all that has come in is on file; and all records are fair. -/
structure Balanced (world : World σ Mark) : Prop where
  covered : ∀ hook, world.hooksRun.count hook + world.waits hook + world.reading.undealt hook ≤
    world.reading.given hook
  filed : ∀ id, ∃ gone kept, world.arrived id = gone ++ kept ∧
    (world.life id).Filed (world.acknowledged id) gone kept world.hooksRun
  fair : ∀ ended ∈ world.reading.ended, ended.Fair

theorem Balanced.fresh (config : Config) (surroundings : Surroundings σ) :
    (fresh config surroundings : World σ Mark).Balanced where
  covered _ := Nat.le_refl _
  filed _ := ⟨[], [], rfl, .fresh⟩
  fair := List.forall_mem_nil _

end World

variable [Custodian σ] {may : Latitude σ} {world after : World σ Mark}

/-- The queue of one registration is handled, and hooks run over that. What
follows is no affair of any queue. -/
private theorem World.Handles.of_quiet {peer : Peer} {next : Lifecycle} {count : Nat}
    {hooks : List Hook} {charge : Counter → Nat} {changed ready : World σ Mark}
    {tail : List (Moment Mark)} (genuine : world.Genuine peer)
    (handling : Lifecycle.Handling (world.life peer.entry) [] count hooks next)
    (changes : changed.entries = (world.setLife peer.entry next).entries)
    (past : changed.acts = world.acts) (quiet : changed.Quiet hooks charge ready)
    (entries : after.entries = ready.entries) (acts : after.acts = ready.acts ++ tail)
    (silent : ∀ moment ∈ tail, moment.isCallback = false ∧ moment.hook? = none)
    (acknowledged : ∀ other,
      after.acknowledged other =
        world.acknowledged other + if other = peer.entry then count else 0) :
    world.Handles peer.entry [] count hooks [] after := by
  have done : after.acts = world.acts ++ (hooks.map .hookRan ++ tail) := by
    rw [acts, quiet.acts, past, List.append_assoc]
  have noCallback : ∀ moment ∈ hooks.map .hookRan ++ tail, moment.isCallback = false := by
    intro moment member
    rcases List.mem_append.mp member with ran | other
    · obtain ⟨_, _, rfl⟩ := List.mem_map.mp ran
      rfl
    · exact (silent moment other).1
  refine .of_setLife genuine handling ((entries.trans quiet.entries).trans changes)
    (fun other => ?_) acknowledged ?_ ?_
  · rw [arrived_of_silent done noCallback, ite_self, List.append_nil]
  · have clean : tail.filterMap Moment.hook? = [] :=
      List.filterMap_eq_nil_iff.mpr fun moment member => (silent moment member).2
    rw [hooksRun_of_acts done, List.filterMap_append, clean, List.append_nil,
      (Moment.hooks_hookRan hooks).1]
  · rw [reading_of_acts done]
    exact world.reading.deals_foldl _

omit [Custodian σ] in
/-- No queue is handled, and no hook runs. -/
private theorem World.Handles.of_clean {done : List (Moment Mark)}
    (entries : after.entries = world.entries) (acts : after.acts = world.acts ++ done)
    (silent : ∀ moment ∈ done, moment.isCallback = false ∧ moment.hook? = none)
    (acknowledged : ∀ id, after.acknowledged id = world.acknowledged id) :
    world.Handles ⟨0⟩ [] 0 [] [] after := by
  refine .of_idle entries acts (fun moment member => (silent moment member).1) ?_ acknowledged ?_
  · exact List.filterMap_eq_nil_iff.mpr fun moment member => (silent moment member).2
  · rw [reading_of_acts acts]
    exact world.reading.deals_foldl _

/-- A report is accepted, and its buffer comes in with the callback. -/
private theorem World.Handles.of_called {ready : World σ Mark} {peer : Peer} {event : NativeEvent}
    {target : TargetId} {next : Lifecycle} {charge : Counter → Nat} (genuine : world.Genuine peer)
    (accepts : (world.life peer.entry).Accepts event.told target next)
    (entered : next.receives = (world.life peer.entry).receives ++ event.entered)
    (reports : world.Reports peer.handle event)
    (quiet : (world.setLife peer.entry next).Quiet [] charge ready) (attached : Option Bool) :
    world.Handles peer.entry event.came 0 [] []
      (ready.push (.callback peer target event.told attached)) := by
  have acts : (ready.push (.callback peer target event.told attached)).acts =
      world.acts ++ [.callback peer target event.told attached] := by
    rw [acts_push, quiet.acts, List.map_nil, List.append_nil]
    rfl
  have reading := reading_of_acts acts
  refine .of_setLife genuine (.of_accepts accepts entered) quiet.entries (fun other => ?_)
    (fun other => ?_) (hooksRun_of_acts acts) ?_
  · obtain ⟨frame, outer, frames, call, _⟩ := reports
    unfold World.arrived
    rw [reading, List.foldl_cons, List.foldl_nil, Reading.read_own _ rfl, frames,
      List.filter_append, List.map_append]
    refine congrArg (world.arrived other ++ ·) ?_
    obtain ⟨made, own⟩ := frame
    obtain rfl : made = _ := call
    by_cases same : peer.entry = other
    · cases event <;> simp [Frame.arriving, NativeEvent.told, NativeEvent.came, same]
    · cases event <;> simp [Frame.arriving, NativeEvent.told, same, Ne.symm same]
  · rw [acknowledged_push]
    refine congrArg₂ (· + ·) ?_ ?_
    · unfold World.acknowledged
      rw [quiet.deeds]
      rfl
    · by_cases same : peer.entry = other
      · simp [Moment.deed?, same, Deed.acknowledges]
      · simp [Moment.deed?, same]
  · rw [reading]
    exact reports.deals peer target attached

/-- Every grain handles one queue at most, and deals out no more hooks than
there are. -/
theorem Grain.handles (grain : Grain may world after) (sound : world.Sound) :
    ∃ id came count hooks loose, world.Handles id came count hooks loose after := by
  have still {before later : World σ Mark} (deeds : ∀ id, later.deeds id = before.deeds id)
      (id : EntryId) : later.acknowledged id = before.acknowledged id := by
    unfold World.acknowledged
    rw [deeds]
  cases grain with
  | rearranged allowed =>
      exact ⟨_, _, _, _, _, .of_clean rfl (List.append_nil _).symm (by simp) fun _ => rfl⟩
  | quiet quiet =>
      exact ⟨_, _, _, _, _, .of_clean quiet.entries quiet.acts (by simp) (still quiet.deeds)⟩
  | @asked moment asking =>
      refine ⟨_, _, _, _, _, .of_clean rfl (world.acts_push moment) ?_ fun id => ?_⟩
      · obtain ⟨_, _, rfl⟩ | ⟨_, _, _, _, rfl⟩ | ⟨_, _, rfl⟩ := Moment.asking_cases asking <;>
          exact Moment.silent_pushed rfl rfl
      · rw [World.acknowledged_push]
        obtain ⟨_, _, rfl⟩ | ⟨_, _, _, _, rfl⟩ | ⟨_, _, rfl⟩ := Moment.asking_cases asking <;> rfl
  | loosed drops quiet =>
      refine ⟨_, _, _, _, _, .of_idle quiet.entries quiet.acts (by simp [Moment.isCallback])
        (Moment.hooks_hookRan _).1 (still quiet.deeds) ?_⟩
      rw [World.reading_of_acts quiet.acts]
      exact drops.deals
  | begun call =>
      exact ⟨_, _, _, _, _, .of_clean rfl (world.acts_push _)
        (Moment.silent_pushed rfl rfl) (world.acknowledged_mark _)⟩
  | ended closes untold noLapse =>
      exact ⟨_, _, _, _, _, .of_clean rfl (world.acts_push _)
        (Moment.silent_pushed rfl rfl) (world.acknowledged_mark _)⟩
  | registered inserted quiet =>
      have deeds := quiet.deeds
      exact ⟨_, _, _, _, _, .of_enrolled quiet.entries (quiet.acts.trans (List.append_nil _)) deeds⟩
  | called genuine accepts entered reports quiet attached =>
      exact ⟨_, _, _, _, _, .of_called genuine accepts entered reports quiet attached⟩
  | missed genuine misses quiet =>
      refine ⟨_, _, _, _, _, .of_quiet genuine (.of_misses misses (sound.life_held _)) rfl rfl quiet
        rfl (List.append_nil _).symm (by simp) fun other => ?_⟩
      rw [ite_self]
      exact still quiet.deeds other
  | opened genuine begun =>
      refine ⟨_, _, _, _, _, .of_quiet genuine (.of_finishOpen _) rfl rfl (.refl _)
        rfl (World.acts_push _ _) (Moment.silent_pushed rfl rfl) fun other => ?_⟩
      rw [ite_self, World.acknowledged_mark]
      rfl
  | settled genuine given quiet =>
      refine ⟨_, _, _, _, _, .of_quiet genuine (.of_releaseNative given)
        (World.entries_concluded _ _ _) (World.acts_concluded _ _ _) quiet
        rfl (List.append_nil _).symm (by simp) fun other => ?_⟩
      rw [ite_self]
      exact still (fun id => (quiet.deeds id).trans (World.deeds_concluded _ _ _ id)) other
  | @forwarded _ peer call _ _ genuine forwards _ quiet =>
      refine ⟨_, _, _, _, _, .of_quiet genuine (.of_forwards forwards) rfl rfl quiet
        rfl (World.acts_push _ _) (Moment.silent_pushed rfl rfl)
        fun other => ?_⟩
      rw [World.acknowledged_push, still quiet.deeds]
      refine congrArg (world.acknowledged other + ·) ?_
      by_cases same : peer.entry = other
      · simp [Moment.deed?, same, Deed.acknowledges]
      · simp [Moment.deed?, same, Ne.symm same]
  | retained genuine taken quiet closes =>
      refine ⟨_, _, _, _, _, .of_quiet genuine (.of_retain taken) rfl rfl quiet
        rfl (World.acts_push _ _) (Moment.silent_pushed rfl rfl)
        fun other => ?_⟩
      rw [ite_self, World.acknowledged_mark]
      exact still quiet.deeds other
  | released genuine given quiet closes =>
      refine ⟨_, _, _, _, _, .of_quiet genuine (.of_release given)
        (World.entries_concluded _ _ _) (World.acts_concluded _ _ _) quiet
        rfl (World.acts_push _ _) (Moment.silent_pushed rfl rfl)
        fun other => ?_⟩
      rw [ite_self, World.acknowledged_mark]
      exact still (fun id => (quiet.deeds id).trans (World.deeds_concluded _ _ _ id)) other
  | unreleased genuine refused quiet closes =>
      have past := quiet.acts.trans (List.append_nil _)
      refine ⟨_, _, _, _, _, .of_clean quiet.entries (past ▸ World.acts_push _ _)
        (Moment.silent_pushed rfl rfl) fun other => ?_⟩
      rw [World.acknowledged_mark]
      exact still quiet.deeds other

/-- No call ends by a quiet change. -/
theorem World.Quiet.ended {hooks : List Hook} {charge : Counter → Nat}
    (quiet : world.Quiet hooks charge after) : after.reading.ended = world.reading.ended := by
  rw [World.reading_of_acts quiet.acts]
  exact (Reading.frames_foldl _ (Moment.isOwn_hookRan hooks)).2

omit [Custodian σ] in
theorem World.ended_push {moment : Moment Mark} (own : moment.isOwn = true) :
    (world.push moment).reading.ended = world.reading.ended := by
  have acts : (world.push moment).acts = world.acts ++ [moment] := by
    rw [acts_push]
    cases moment <;> first | rfl | cases own
  rw [World.reading_of_acts acts, List.foldl_cons, List.foldl_nil, Reading.read_own _ own]

omit [Custodian σ] in
/-- The record of a call that ends is fair. -/
theorem World.Closes.ended {call : BridgeCall} {reply : Reply} (closes : world.Closes call reply) :
    ∃ record : Ended, record.Fair ∧
      (world.push (.marked (.replied call reply))).reading.ended =
        world.reading.ended ++ [record] := by
  obtain ⟨frame, outer, frames, _, fair⟩ := closes
  exact ⟨_, fair, congrArg Reading.ended (reading_replied frames call reply)⟩

/-- A grain ends one call at most, and its record is fair. -/
theorem Grain.ended_fair (grain : Grain may world after)
    (fair : ∀ ended ∈ world.reading.ended, ended.Fair) :
    ∀ ended ∈ after.reading.ended, ended.Fair := by
  have none (same : after.reading.ended = world.reading.ended) :
      ∀ ended ∈ after.reading.ended, ended.Fair := same ▸ fair
  have one {before : World σ Mark} (same : before.reading.ended = world.reading.ended)
      (closing : ∃ record : Ended, record.Fair ∧
        after.reading.ended = before.reading.ended ++ [record]) :
      ∀ ended ∈ after.reading.ended, ended.Fair := by
    obtain ⟨record, new, grown⟩ := closing
    rw [grown, same]
    intro ended member
    rcases List.mem_append.mp member with old | last
    · exact fair ended old
    · exact List.mem_singleton.mp last ▸ new
  cases grain with
  | rearranged => exact fair
  | quiet quiet => exact none quiet.ended
  | @asked moment asking =>
      refine none (World.ended_push ?_)
      cases moment <;> first | rfl | cases asking
  | loosed _ quiet => exact none quiet.ended
  | begun call =>
      refine none ?_
      rw [world.reading_called call]
  | ended closes => exact one rfl closes.ended
  | registered _ quiet => exact none quiet.ended
  | called _ _ _ _ quiet => exact none ((World.ended_push rfl).trans quiet.ended)
  | missed _ _ quiet => exact none quiet.ended
  | opened _ _ _ closes =>
      obtain ⟨record, new, grown⟩ := closes.ended
      exact one rfl ⟨record, new, grown⟩
  | settled _ _ quiet =>
      exact none (quiet.ended.trans (World.ended_concluded _ _ _))
  | forwarded _ _ _ quiet => exact none ((World.ended_push rfl).trans quiet.ended)
  | retained _ _ quiet closes => exact one quiet.ended closes.ended
  | released _ _ quiet closes =>
      exact one (quiet.ended.trans (World.ended_concluded _ _ _)) closes.ended
  | unreleased _ _ quiet closes => exact one quiet.ended closes.ended

theorem Grain.balanced (grain : Grain may world after) (sound : world.Sound)
    (balanced : world.Balanced) : after.Balanced := by
  obtain ⟨id, came, count, hooks, loose, handles⟩ := grain.handles sound
  refine ⟨fun hook => ?_, fun other => ?_, grain.ended_fair balanced.fair⟩
  · have covered := balanced.covered hook
    have waits := handles.waits hook
    have deals := handles.deals hook
    rw [List.count_append] at deals
    rw [handles.ran, List.count_append, List.count_append]
    omega
  · obtain ⟨gone, kept, arrived, filed⟩ := balanced.filed other
    by_cases same : other = id
    · subst same
      have ran : (world.hooksRun ++ hooks).Sublist after.hooksRun := by
        rw [handles.ran, ← List.append_assoc]
        exact List.sublist_append_left _ _
      obtain ⟨gone', kept', split, refiled⟩ := filed.handled handles.own ran
      refine ⟨gone', kept', ?_, ?_⟩
      · rw [handles.arrived, if_pos rfl, arrived, split]
      · rw [handles.acknowledged, if_pos rfl]
        exact refiled
    · refine ⟨gone, kept, ?_, ?_⟩
      · rw [handles.arrived, if_neg same, arrived, List.append_nil]
      · rw [handles.acknowledged, if_neg same, handles.others other same]
        refine ⟨filed.left, filed.freed.trans ?_, filed.unacked, filed.balance⟩
        rw [handles.ran]
        exact List.sublist_append_left _ _

/-- The ledger is balanced all along a trail from a fresh world. -/
theorem Trail.balanced {config : Config} {surroundings : Surroundings σ}
    (trail : Trail may (World.fresh config surroundings : World σ Mark) world) : world.Balanced :=
  Trail.invariant trail (.fresh config surroundings) (.fresh config surroundings)
    fun sound balanced grain => grain.balanced sound balanced

end Grains

end TransportBridge
