import TransportBridge.Proofs.EventOrder

/-!
Contract: what the engine hears of a registration from the managed side.

The engine is called for a registration only while its life allows it: readiness
is told once and after the open callback has begun, the close of the managed
side is told once, and nothing is told once the closed callback has begun. All
connections of a registration share one lifecycle, so that this holds of them
together.
-/

namespace TransportBridge

/-- The engine has been told that the managed side has closed. -/
def Deed.tellsClosed : Deed → Bool
  | .forwarded (.closed _) => true
  | _ => false

/-- The engine has been told what a flag remembers. -/
def Deed.isRemembered : Deed → Bool
  | .forwarded .opened | .forwarded (.closed _) => true
  | _ => false

/-- The calls of the engine among the deeds respect the life of the handle. -/
structure CallsInLife (deeds : List Deed) : Prop where
  silent : ∀ earlier later, deeds = earlier ++ .callback .closed :: later →
    ∀ call, .forwarded call ∉ later
  openedOnce : deeds.count (.forwarded .opened) ≤ 1
  openedLate : ∀ earlier later, deeds = earlier ++ .forwarded .opened :: later →
    .callback .openRequest ∈ earlier
  closedOnce : deeds.countP Deed.tellsClosed ≤ 1

/-! ## What the flags tell of the deeds -/

namespace Lifecycle

/-- The flags remember what the engine has been told. -/
structure Remembers (life : Lifecycle) (deeds : List Deed) : Prop where
  opened : .forwarded .opened ∈ deeds → life.managedReady = true
  closed : (∃ deed ∈ deeds, deed.tellsClosed = true) → life.managedClosed = true

variable {life next : Lifecycle} {deeds : List Deed}

theorem Accepts.keepsFlags {event : SocketEvent} {target : TargetId}
    (accepts : life.Accepts event target next) :
    next.managedReady = life.managedReady ∧ next.managedClosed = life.managedClosed := by
  rw [accepts.frame]
  exact ⟨rfl, rfl⟩

theorem Misses.keepsFlags {event : SocketEvent} (misses : life.Misses event next) :
    next.managedReady = life.managedReady ∧ next.managedClosed = life.managedClosed := by
  rw [misses.frame]
  exact ⟨rfl, rfl⟩

namespace Remembers

theorem fresh : Remembers {} [] where
  opened told := nomatch told
  closed told := by simp at told

/-- The flags are as they were, and the engine has been told nothing that they
are about. -/
theorem of_same (remembers : life.Remembers deeds)
    (same : next.managedReady = life.managedReady ∧ next.managedClosed = life.managedClosed) :
    next.Remembers deeds where
  opened told := same.1.trans (remembers.opened told)
  closed told := same.2.trans (remembers.closed told)

theorem of_other (remembers : life.Remembers deeds)
    (same : next.managedReady = life.managedReady ∧ next.managedClosed = life.managedClosed)
    {deed : Deed} (other : deed.isRemembered = false) : next.Remembers (deeds ++ [deed]) where
  opened told := by
    have different : .forwarded .opened ≠ deed := by
      rintro rfl
      cases other
    exact same.1.trans (remembers.opened (by simpa [different] using told))
  closed told := by
    have untold : deed.tellsClosed = false := by
      unfold Deed.tellsClosed
      split
      · cases other
      · rfl
    exact same.2.trans (remembers.closed (by simpa [untold] using told))

theorem of_forwards (remembers : life.Remembers deeds) {limit : Nat} {call : EngineCall}
    (forwards : life.Forwards limit call next) : next.Remembers (deeds ++ [.forwarded call]) := by
  cases forwards with
  | opened marked =>
      rcases markReady_ok marked with ⟨_, _, _, rfl⟩ | ⟨unforwarded, _⟩
      · refine ⟨fun _ => rfl, fun told => remembers.closed ?_⟩
        simpa [Deed.tellsClosed] using told
      · cases unforwarded
  | httpResponse checked =>
      obtain ⟨_, rfl⟩ := checkHandshake_ok checked
      refine remembers.of_other ?_ ?_
      · exact ⟨rfl, rfl⟩
      · rfl
  | write recorded =>
      obtain ⟨_, _, rfl⟩ := recordWrite_ok recorded
      refine remembers.of_other ?_ ?_
      · exact ⟨rfl, rfl⟩
      · rfl
  | completedReceive acknowledged =>
      obtain ⟨_, _, _, rfl⟩ := acknowledgeReceive_ok acknowledged
      refine remembers.of_other ?_ ?_
      · exact ⟨rfl, rfl⟩
      · rfl
  | closeRequest requested =>
      obtain ⟨_, rfl⟩ := requestClose_ok requested
      refine remembers.of_other ?_ ?_
      · exact ⟨rfl, rfl⟩
      · rfl
  | closed marked =>
      rcases markManagedClosed_cases life with ⟨_, _, taken⟩ | ⟨_, taken⟩
      · rw [taken] at marked
        cases marked
        exact ⟨fun told => remembers.opened (by simpa using told), fun _ => rfl⟩
      · rw [taken] at marked
        cases marked

theorem turn (remembers : life.Remembers deeds) {told : List Deed}
    (turn : Turn life deeds next told) : next.Remembers told := by
  cases turn with
  | idle => exact remembers
  | registered => exact remembers.of_same ⟨rfl, rfl⟩
  | called accepts => exact remembers.of_other accepts.keepsFlags rfl
  | missed misses => exact remembers.of_same misses.keepsFlags
  | opened =>
      rw [finishOpen_frame]
      exact remembers.of_same ⟨rfl, rfl⟩
  | settled given =>
      obtain ⟨_, _, rfl⟩ := releaseNative_ok given
      rw [tryTeardown_frame]
      exact remembers.of_same ⟨rfl, rfl⟩
  | forwarded forwards => exact remembers.of_forwards forwards
  | retained taken =>
      obtain ⟨_, rfl, _⟩ := retain_ok taken
      refine remembers.of_other ?_ ?_
      · exact ⟨rfl, rfl⟩
      · rfl
  | released given =>
      obtain ⟨_, _, rfl⟩ := release_ok given
      rw [tryTeardown_frame]
      refine remembers.of_other ?_ rfl
      exact ⟨rfl, rfl⟩
  | unreleased => exact remembers.of_other ⟨rfl, rfl⟩ rfl

/-- Readiness is told where it has not been told before. -/
theorem opened_first (remembers : life.Remembers deeds) {limit : Nat}
    (forwards : life.Forwards limit .opened next) : .forwarded .opened ∉ deeds := by
  cases forwards with
  | opened marked =>
      rcases markReady_ok marked with ⟨_, _, unready, _⟩ | ⟨unforwarded, _⟩
      · intro told
        cases unready.symm.trans (remembers.opened told)
      · cases unforwarded

/-- So is the close of the managed side. -/
theorem closed_first (remembers : life.Remembers deeds) {limit : Nat} {error : ErrorRecord}
    (forwards : life.Forwards limit (.closed error) next) :
    ∀ deed ∈ deeds, deed.tellsClosed = false := by
  cases forwards with
  | closed marked =>
      rcases markManagedClosed_cases life with ⟨unclosed, _, _⟩ | ⟨_, taken⟩
      · intro deed member
        refine Bool.eq_false_iff.mpr fun told => ?_
        cases unclosed.symm.trans (remembers.closed ⟨deed, member, told⟩)
      · rw [taken] at marked
        cases marked

end Remembers

end Lifecycle

/-! ## Calls that respect the life of a handle -/

namespace CallsInLife

variable {life next : Lifecycle} {deeds : List Deed}

theorem nothing : CallsInLife [] where
  silent earlier _ split := by cases earlier <;> cases split
  openedOnce := Nat.zero_le _
  openedLate earlier _ split := by cases earlier <;> cases split
  closedOnce := Nat.zero_le _

/-- What is no call of the engine may come at any time. -/
theorem of_other (calls : CallsInLife deeds) {deed : Deed}
    (other : ∀ call, deed ≠ .forwarded call) :
    CallsInLife (deeds ++ [deed]) where
  silent earlier later split := by
    rcases split_concat split with ⟨rfl, _, _⟩ | ⟨rest, rfl, before⟩
    · exact fun _ => List.not_mem_nil
    · intro call told
      rcases List.mem_append.mp told with within | last
      · exact calls.silent earlier rest before call within
      · exact other call (List.mem_singleton.mp last).symm
  openedOnce := by
    rw [List.count_append, List.count_singleton, if_neg (by simpa using other .opened)]
    exact calls.openedOnce
  openedLate earlier later split := by
    rcases split_concat split with ⟨_, _, last⟩ | ⟨rest, _, before⟩
    · exact absurd last.symm (other .opened)
    · exact calls.openedLate earlier rest before
  closedOnce := by
    have untold : deed.tellsClosed = false := by
      cases deed <;> first | rfl | exact absurd rfl (other _)
    simpa [untold] using calls.closedOnce

/-- A call goes on to the engine. Its check has seen a state of before the
closed callback, and the flags. -/
theorem of_forwards (calls : CallsInLife deeds) (reflects : life.Reflects deeds)
    (remembers : life.Remembers deeds) {limit : Nat} {call : EngineCall}
    (forwards : life.Forwards limit call next) : CallsInLife (deeds ++ [.forwarded call]) where
  silent earlier later split := by
    have unclosed : .callback .closed ∉ deeds := by
      rw [← reflects.closed, forwards.keeps.1.live]
      exact Bool.false_ne_true
    rcases split_concat split with ⟨_, _, last⟩ | ⟨rest, _, before⟩
    · cases last
    · exact absurd (by rw [before]; simp) unclosed
  openedOnce := by
    rw [List.count_append, List.count_singleton]
    by_cases opened : call = .opened
    · subst opened
      rw [List.count_eq_zero_of_not_mem (remembers.opened_first forwards)]
      exact Nat.le_refl 1
    · rw [if_neg (by simpa using opened)]
      exact calls.openedOnce
  openedLate earlier later split := by
    rcases split_concat split with ⟨_, rfl, last⟩ | ⟨rest, _, before⟩
    · obtain rfl := Deed.forwarded.inj last
      cases forwards with
      | opened marked =>
          rcases Lifecycle.markReady_ok marked with ⟨_, opening, _, _⟩ | ⟨unforwarded, _⟩
          · exact reflects.opened (.inl opening)
          · cases unforwarded
    · exact calls.openedLate earlier rest before
  closedOnce := by
    rw [List.countP_append]
    by_cases closed : (Deed.forwarded call).tellsClosed = true
    · obtain ⟨error, rfl⟩ : ∃ error, call = .closed error := by
        cases call <;> first | exact ⟨_, rfl⟩ | cases closed
      rw [List.countP_eq_zero.mpr fun deed member =>
        Bool.eq_false_iff.mp (remembers.closed_first forwards deed member)]
      exact Nat.le_refl 1
    · simpa [closed] using calls.closedOnce

theorem turn (calls : CallsInLife deeds) (reflects : life.Reflects deeds)
    (remembers : life.Remembers deeds) {told : List Deed} (turn : Turn life deeds next told) :
    CallsInLife told := by
  cases turn with
  | called => exact calls.of_other nofun
  | forwarded forwards => exact calls.of_forwards reflects remembers forwards
  | retained => exact calls.of_other nofun
  | released => exact calls.of_other nofun
  | unreleased => exact calls.of_other nofun
  | _ => exact calls

end CallsInLife

/-! ## Runs -/

namespace Reachable

variable {σ : Type} [Custodian σ] {world : World σ Mark}

/-- In every run, nothing is forwarded to the engine for a registration once
its closed callback has begun, readiness is forwarded once at most and after the
open callback has begun, and the close of the managed side once at most. -/
theorem engineCalls_inLife (reached : Reachable world) (id : EntryId) :
    CallsInLife (world.deeds id) := by
  let holds (life : Lifecycle) (deeds : List Deed) : Prop :=
    life.Reflects deeds ∧ life.Remembers deeds ∧ CallsInLife deeds
  have begins : holds {} [] := ⟨.fresh, .fresh, .nothing⟩
  have kept : holds (world.life id) (world.deeds id) :=
    reached.registration begins
      (fun held ⟨reflects, remembers, calls⟩ turn =>
        ⟨reflects.turn held turn, remembers.turn turn, calls.turn reflects remembers turn⟩) id
  exact kept.2.2

/-- A target that confirms readiness twice while it is opened, and closes and
writes while it is told of the end, over a connection that it has closed
before. -/
def overZealous : World Bystander Mark :=
  let onEvent : SocketEvent → UserCode Bystander Unit
    | .openRequest _ _ => .call (.socket ⟨0⟩ .opened) fun _ =>
        .call (.socket ⟨0⟩ .opened) fun _ => .finish ()
    | .closed _ => .call (.socket ⟨0⟩ (.write [1])) fun _ =>
        .call (.socket ⟨0⟩ (.closed .success)) fun _ => .unwind .other
    | _ => .finish ()
  (Bystander.answering onEvent).inTurn 2 [.adoptInbound Bystander.handle ⟨0⟩,
    .socket ⟨0⟩ .opened,
    .native Bystander.handle (.openRequest ⟨"wss", "x", 443, "/"⟩ (.transferable [])),
    .socket ⟨0⟩ .opened, .socket ⟨0⟩ (.closed .success), .socket ⟨0⟩ (.closed .success),
    .native Bystander.handle (.closed 0 1000 []), .socket ⟨0⟩ (.write [2])] Bystander.start

/-- Of eight calls on the connection two reach the engine. -/
theorem engineCalls_inLife_of_over_zealous :
    overZealous.deeds ⟨0⟩ = [.callback .openRequest, .forwarded .opened,
      .forwarded (.closed .success), .callback .closed] ∧ CallsInLife (overZealous.deeds ⟨0⟩) := by
  have reached : Reachable overZealous := Bystander.reachable_inTurn _ _ _
  exact ⟨by decide +kernel, engineCalls_inLife reached ⟨0⟩⟩

end Reachable

end TransportBridge
