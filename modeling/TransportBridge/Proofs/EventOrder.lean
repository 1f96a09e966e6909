import TransportBridge.Proofs.Turns

/-!
Contract: the order in which the callbacks of one registration begin.

Owns: that `on_open` and `on_closed` begin at most once, and nothing begins
after `on_closed`; and when an event of the stream begins before `on_open`,
which the state alone does not rule out: a close by the managed side leads a
lifecycle that was never opened to the state where a close is pending, and that
state accepts the events of the stream.
-/

namespace TransportBridge

/-! ## Callbacks among the deeds -/

def Deed.callback? : Deed → Option EventKind
  | .callback event => some event
  | _ => none

/-- The managed side has closed, or asked for a close. -/
def Deed.asksToClose : Deed → Bool
  | .forwarded (.closeRequest _ _) | .forwarded (.closed _) => true
  | _ => false

def callbacksIn (deeds : List Deed) : List EventKind :=
  deeds.filterMap Deed.callback?

/-- The callbacks that have begun for a registration, in order. -/
def World.callbacks {σ : Type} (world : World σ Mark) (entry : EntryId) : List EventKind :=
  callbacksIn (world.deeds entry)

/-- Events that come between the open request and the closed event. -/
def EventKind.isStream : EventKind → Bool
  | .writeCompleted | .received | .closeRequest => true
  | _ => false

theorem mem_callbacksIn {deeds : List Deed} {event : EventKind} :
    event ∈ callbacksIn deeds ↔ .callback event ∈ deeds := by
  unfold callbacksIn
  rw [List.mem_filterMap]
  constructor
  · rintro ⟨deed, member, told⟩
    cases deed <;> cases told
    exact member
  · intro member
    exact ⟨_, member, rfl⟩

theorem callbacksIn_callback (deeds : List Deed) (event : EventKind) :
    callbacksIn (deeds ++ [.callback event]) = callbacksIn deeds ++ [event] := by
  simp [callbacksIn, Deed.callback?]

theorem callbacksIn_of_none {deed : Deed} (untold : deed.callback? = none) (deeds : List Deed) :
    callbacksIn (deeds ++ [deed]) = callbacksIn deeds := by
  simp [callbacksIn, untold]

/-- At most one `on_open` and one `on_closed`, and that one last. -/
structure InOrder (callbacks : List EventKind) : Prop where
  openOnce : callbacks.count .openRequest ≤ 1
  closedOnce : callbacks.count .closed ≤ 1
  closedLast : ∀ earlier later, callbacks = earlier ++ .closed :: later → later = []

/-- The managed side has closed, and neither `on_open` nor `on_closed` has
begun. -/
structure ClosedEarly (deeds : List Deed) : Prop where
  asked : ∃ deed ∈ deeds, deed.asksToClose = true
  unopened : .callback .openRequest ∉ deeds
  unclosed : .callback .closed ∉ deeds

/-- Events of the stream that begin before `on_open` do so after an early
close. -/
def Excused (deeds : List Deed) : Prop :=
  ∀ earlier event later, deeds = earlier ++ .callback event :: later → event.isStream = true →
    .callback .openRequest ∉ earlier → ClosedEarly earlier

/-! ## What the state tells of the deeds -/

/-- The state and the flags of a lifecycle tell which callbacks have begun. -/
structure Lifecycle.Reflects (life : Lifecycle) (deeds : List Deed) : Prop where
  created : life.state = .created → callbacksIn deeds = []
  opened : life.state = .opening ∨ life.state = .opened → .callback .openRequest ∈ deeds
  dispatched : life.openDispatched = true → .callback .openRequest ∈ deeds
  closed : life.state.isClosed = true ↔ .callback .closed ∈ deeds
  asked : (life.managedClosed = true ∨ life.managedCloseRequested = true) ↔
    ∃ deed ∈ deeds, deed.asksToClose = true
  /-- A close is pending after an open request, or the managed side has asked
  for it. -/
  pending : life.state = .closePending → .callback .openRequest ∈ deeds ∨
    life.managedClosed = true ∨ life.managedCloseRequested = true
  /-- Once the managed side has asked, the close stays pending. -/
  flagged : life.managedClosed = true ∨ life.managedCloseRequested = true →
    life.state = .closePending ∨ life.state.isClosed = true

namespace Lifecycle.Reflects

variable {life next : Lifecycle} {deeds : List Deed}

theorem fresh : Reflects {} [] where
  created _ := rfl
  opened early := by rcases early with state | state <;> cases state
  dispatched early := nomatch early
  closed := ⟨(nomatch ·), (nomatch ·)⟩
  asked := by simp
  pending early := nomatch early
  flagged early := by rcases early with flag | flag <;> cases flag

/-- The fields that it is about. -/
structure Same (life next : Lifecycle) : Prop where
  state : next.state = life.state
  openDispatched : next.openDispatched = life.openDispatched
  managedClosed : next.managedClosed = life.managedClosed
  managedCloseRequested : next.managedCloseRequested = life.managedCloseRequested

/-- It is about callbacks and requests for a close only. -/
theorem of_same (reflects : life.Reflects deeds) (same : Same life next) {told : List Deed}
    (callbacks : callbacksIn told = callbacksIn deeds)
    (asks : (∃ deed ∈ told, deed.asksToClose = true) ↔ ∃ deed ∈ deeds, deed.asksToClose = true) :
    next.Reflects told := by
  have begun : ∀ event, .callback event ∈ told ↔ .callback event ∈ deeds := by
    intro event
    rw [← mem_callbacksIn, ← mem_callbacksIn, callbacks]
  obtain ⟨state, openDispatched, managedClosed, managedCloseRequested⟩ := same
  refine ⟨?_, ?_, ?_, ?_, ?_, ?_, ?_⟩
  · rw [state, callbacks]
    exact reflects.created
  · rw [state, begun]
    exact reflects.opened
  · rw [openDispatched, begun]
    exact reflects.dispatched
  · rw [state, begun]
    exact reflects.closed
  · rw [managedClosed, managedCloseRequested, asks]
    exact reflects.asked
  · rw [state, managedClosed, managedCloseRequested, begun]
    exact reflects.pending
  · rw [state, managedClosed, managedCloseRequested]
    exact reflects.flagged

/-- What is no callback and asks for no close is not reflected. -/
theorem of_silent (reflects : life.Reflects deeds) (same : Same life next) (deed : Deed)
    (untold : deed.callback? = none) (unasked : deed.asksToClose = false) :
    next.Reflects (deeds ++ [deed]) :=
  reflects.of_same same (callbacksIn_of_none untold deeds) (by simp [unasked])

/-- Between the open request and the close, the states tell the same. -/
theorem of_early (reflects : life.Reflects deeds)
    (early : life.state = .opening ∨ life.state = .opened)
    (still : next.state = .opening ∨ next.state = .opened)
    (managedClosed : next.managedClosed = life.managedClosed)
    (managedCloseRequested : next.managedCloseRequested = life.managedCloseRequested) :
    next.Reflects deeds := by
  have begun := reflects.opened early
  have live : life.state.isClosed = false := by
    rcases early with state | state <;> rw [state] <;> rfl
  have stays : next.state.isClosed = false := by
    rcases still with state | state <;> rw [state] <;> rfl
  have notPending : ∀ {state : SocketState}, state = .opening ∨ state = .opened →
      state ≠ .closePending := by
    rintro _ (rfl | rfl) <;> exact nofun
  refine ⟨?_, fun _ => begun, fun _ => begun, ?_, ?_, ?_, ?_⟩
  · intro created
    rw [created] at still
    rcases still with still | still <;> cases still
  · rw [← reflects.closed, live, stays]
  · rw [managedClosed, managedCloseRequested]
    exact reflects.asked
  · intro pending
    exact absurd pending (notPending still)
  · rw [managedClosed, managedCloseRequested]
    intro asked
    rcases reflects.flagged asked with pending | closed
    · exact absurd pending (notPending early)
    · rw [live] at closed
      cases closed

/-- The callback of an event of the stream, whose acceptance leaves the state
or makes a close pending. -/
theorem of_stream (reflects : life.Reflects deeds) (event : EventKind)
    (stream : event.isStream = true) (streaming : life.state.acceptsStreamEvents = true)
    (state : next.state = life.state ∨ next.state = .closePending)
    (openDispatched : next.openDispatched = life.openDispatched)
    (managedClosed : next.managedClosed = life.managedClosed)
    (managedCloseRequested : next.managedCloseRequested = life.managedCloseRequested) :
    next.Reflects (deeds ++ [.callback event]) := by
  have live := SocketState.not_isClosed_of_acceptsStreamEvents streaming
  have stays : next.state.acceptsStreamEvents = true := by
    rcases state with state | state <;> rw [state]
    · exact streaming
    · rfl
  have notOpen : event ≠ .openRequest := by rintro rfl; cases stream
  have notClosed : event ≠ .closed := by rintro rfl; cases stream
  have begun : ∀ other, other ≠ event →
      (.callback other ∈ deeds ++ [.callback event] ↔ .callback other ∈ deeds) := by
    intro other different
    simp [different]
  have asks : (∃ deed ∈ deeds ++ [.callback event], deed.asksToClose = true) ↔
      ∃ deed ∈ deeds, deed.asksToClose = true := by simp [Deed.asksToClose]
  refine ⟨?_, ?_, ?_, ?_, ?_, ?_, ?_⟩
  · intro created
    rw [created] at stays
    cases stays
  · rw [begun _ notOpen.symm]
    intro early
    rcases state with state | state
    · rw [state] at early
      exact reflects.opened early
    · rw [state] at early
      rcases early with early | early <;> cases early
  · rw [openDispatched, begun _ notOpen.symm]
    exact reflects.dispatched
  · rw [begun _ notClosed.symm, ← reflects.closed, live,
      SocketState.not_isClosed_of_acceptsStreamEvents stays]
  · rw [managedClosed, managedCloseRequested, asks]
    exact reflects.asked
  · rw [managedClosed, managedCloseRequested, begun _ notOpen.symm]
    intro _
    rcases (SocketState.acceptsStreamEvents_iff life.state).mp streaming with
      opening | opened | pending
    · exact .inl (reflects.opened (.inl opening))
    · exact .inl (reflects.opened (.inr opened))
    · exact reflects.pending pending
  · rw [managedClosed, managedCloseRequested]
    intro asked
    rcases reflects.flagged asked with pending | closed
    · rcases state with state | state
      · exact .inl (state.trans pending)
      · exact .inl state
    · rw [live] at closed
      cases closed

/-- Accepting an event and beginning its callback. -/
theorem of_accepts (reflects : life.Reflects deeds) {event : SocketEvent} {target : TargetId}
    (accepts : life.Accepts event target next) :
    next.Reflects (deeds ++ [.callback event.kind]) := by
  cases accepts with
  | openRequest begun =>
      obtain ⟨created, _, rfl⟩ := beginOpen_ok begun
      have unflagged : ¬ (life.managedClosed = true ∨ life.managedCloseRequested = true) := by
        intro asked
        rcases reflects.flagged asked with pending | closed
        · cases created.symm.trans pending
        · rw [created] at closed
          cases closed
      have unclosed : .callback .closed ∉ deeds := by
        intro begun
        have closed := reflects.closed.mpr begun
        rw [created] at closed
        cases closed
      refine ⟨?_, ?_, ?_, ?_, ?_, ?_, ?_⟩
      · intro state
        cases state
      · intro _
        simp [SocketEvent.kind]
      · intro _
        simp [SocketEvent.kind]
      · simp [SocketEvent.kind, unclosed, SocketState.isClosed]
      · simpa [Deed.asksToClose] using reflects.asked
      · intro state
        cases state
      · intro asked
        exact absurd asked unflagged
  | writeCompleted accepted =>
      obtain ⟨streaming, _, _, rfl⟩ := acceptWriteCompleted_ok accepted
      exact reflects.of_stream _ rfl streaming (.inl rfl) rfl rfl rfl
  | received accepted =>
      obtain ⟨streaming, _, rfl⟩ := acceptReceived_ok accepted
      exact reflects.of_stream _ rfl streaming (.inl rfl) rfl rfl rfl
  | closeRequest accepted =>
      obtain ⟨streaming, _, _, rfl⟩ := acceptCloseRequest_ok accepted
      exact reflects.of_stream _ rfl streaming (.inr rfl) rfl rfl rfl
  | closed begun =>
      obtain ⟨_, _, _, rfl⟩ := beginClose_ok begun
      refine ⟨?_, ?_, ?_, ?_, ?_, ?_, ?_⟩
      · intro state
        cases state
      · intro early
        rcases early with early | early <;> cases early
      · intro dispatched
        exact List.mem_append_left _ (reflects.dispatched dispatched)
      · simp [SocketEvent.kind, SocketState.isClosed]
      · simpa [Deed.asksToClose] using reflects.asked
      · intro state
        cases state
      · intro _
        exact .inr rfl

/-- The managed side's close leaves a lifecycle with a close pending. -/
theorem of_asked (reflects : life.Reflects deeds) (deed : Deed) (untold : deed.callback? = none)
    (asks : deed.asksToClose = true) (live : life.state.isClosed = false)
    (state : next.state = .closePending)
    (openDispatched : next.openDispatched = life.openDispatched)
    (asked : next.managedClosed = true ∨ next.managedCloseRequested = true) :
    next.Reflects (deeds ++ [deed]) := by
  have begun : ∀ event, .callback event ∈ deeds ++ [deed] ↔ .callback event ∈ deeds := by
    intro event
    rw [← mem_callbacksIn, ← mem_callbacksIn, callbacksIn_of_none untold]
  refine ⟨?_, ?_, ?_, ?_, ?_, fun _ => .inr asked, fun _ => .inl state⟩
  · rw [state]
    exact nofun
  · rw [state]
    exact fun early => by rcases early with early | early <;> cases early
  · rw [openDispatched, begun]
    exact reflects.dispatched
  · rw [begun, ← reflects.closed, live, state]
    rfl
  · exact ⟨fun _ => ⟨deed, by simp, asks⟩, fun _ => asked⟩

/-- A call of the managed side that goes on to the engine. -/
theorem of_forwards (reflects : life.Reflects deeds) {limit : Nat} {call : EngineCall}
    (forwards : life.Forwards limit call next) : next.Reflects (deeds ++ [.forwarded call]) := by
  cases forwards with
  | opened marked =>
      rcases markReady_ok marked with ⟨_, opening, _, rfl⟩ | ⟨unforwarded, _⟩
      · have silent := reflects.of_silent ⟨rfl, rfl, rfl, rfl⟩ (.forwarded .opened) rfl rfl
        refine silent.of_early (.inl opening) ?_ rfl rfl
        dsimp only
        split
        · exact .inr rfl
        · exact .inl rfl
      · cases unforwarded
  | httpResponse checked =>
      obtain ⟨_, rfl⟩ := checkHandshake_ok checked
      refine reflects.of_silent ?_ _ ?_ ?_
      · exact ⟨rfl, rfl, rfl, rfl⟩
      all_goals rfl
  | write recorded =>
      obtain ⟨_, _, rfl⟩ := recordWrite_ok recorded
      refine reflects.of_silent ?_ _ ?_ ?_
      · exact ⟨rfl, rfl, rfl, rfl⟩
      all_goals rfl
  | completedReceive acknowledged =>
      obtain ⟨_, _, _, rfl⟩ := acknowledgeReceive_ok acknowledged
      refine reflects.of_silent ?_ _ ?_ ?_
      · exact ⟨rfl, rfl, rfl, rfl⟩
      all_goals rfl
  | closeRequest requested =>
      obtain ⟨live, rfl⟩ := requestClose_ok requested
      exact reflects.of_asked _ rfl rfl live rfl rfl (.inr rfl)
  | closed marked =>
      rcases markManagedClosed_cases life with ⟨_, live, taken⟩ | ⟨_, taken⟩
      · rw [taken] at marked
        cases marked
        exact reflects.of_asked _ rfl rfl live rfl rfl (.inl rfl)
      · rw [taken] at marked
        cases marked

/-- A missed event leaves what is reflected. -/
theorem same_of_misses (reflects : life.Reflects deeds) (held : life.Held) {event : SocketEvent}
    (misses : life.Misses event next) : Same life next := by
  cases misses with
  | openRequest begun =>
      obtain ⟨created, _, rfl⟩ := beginOpen_ok begun
      rcases abortOpen_cases { life with state := .opening } with ⟨_, _, aborted⟩ | ⟨kept, _⟩
      · rw [aborted]
        exact ⟨created.symm, rfl, rfl, rfl⟩
      · -- An open callback that has returned has begun, and then nothing is created.
        rcases kept with opening | dispatched
        · exact absurd rfl opening
        · have begun := mem_callbacksIn.mpr (reflects.dispatched dispatched)
          rw [reflects.created created] at begun
          cases begun
  | writeCompleted accepted =>
      obtain ⟨_, _, _, rfl⟩ := acceptWriteCompleted_ok accepted
      exact ⟨rfl, rfl, rfl, rfl⟩
  | @received bytes _ _ _ accepted =>
      obtain ⟨_, _, rfl⟩ := acceptReceived_ok accepted
      rcases abortReceived_cases bytes.length _ with ⟨_, _, _, aborted⟩ | aborted <;>
        rw [aborted] <;> exact ⟨rfl, rfl, rfl, rfl⟩
  | closeRequest accepted =>
      obtain ⟨streaming, _, rfl, rfl⟩ := acceptCloseRequest_ok accepted
      rcases abortCloseRequest_cases life.state { life with state := .closePending } with
        ⟨_, _, _, aborted⟩ | ⟨kept, aborted⟩
      · rw [aborted]
        exact ⟨rfl, rfl, rfl, rfl⟩
      · rw [aborted]
        -- The managed side has asked, so that the close was pending before.
        have asked : life.managedClosed = true ∨ life.managedCloseRequested = true :=
          kept.resolve_left (fun other => other rfl)
        refine ⟨?_, rfl, rfl, rfl⟩
        rcases reflects.flagged asked with pending | closed
        · exact pending.symm
        · rw [SocketState.not_isClosed_of_acceptsStreamEvents streaming] at closed
          cases closed
  | closed begun =>
      obtain ⟨live, _, rfl, rfl⟩ := beginClose_ok begun
      rcases abortClose_cases life.state { life with state := .closed } with
        ⟨_, _, aborted⟩ | ⟨kept, _⟩
      · rw [aborted]
        exact ⟨rfl, rfl, rfl, rfl⟩
      · rcases kept with opened | given
        · exact absurd rfl opened
        · rw [held.native live] at given
          cases given

/-- Giving a reference up closes nothing, nor opens it. -/
theorem tryTeardown (reflects : life.Reflects deeds) : life.tryTeardown.2.Reflects deeds := by
  rcases tryTeardown_cases life with ⟨_, closed, torn⟩ | ⟨_, torn⟩
  · rw [torn]
    have begun := reflects.closed.mp (by rw [closed]; rfl)
    refine ⟨nofun, ?_, reflects.dispatched, ⟨fun _ => begun, fun _ => rfl⟩, reflects.asked,
      nofun, fun _ => .inr rfl⟩
    intro early
    rcases early with early | early <;> cases early
  · rw [torn]
    exact reflects

/-- An open callback that has returned has begun. -/
theorem finishOpen (reflects : life.Reflects deeds) (begun : .callback .openRequest ∈ deeds) :
    life.finishOpen.2.Reflects deeds := by
  rcases finishOpen_cases life with ⟨opening, _, finished⟩ | ⟨_, finished⟩
  · rw [finished]
    exact reflects.of_early (.inl opening) (.inr rfl) rfl rfl
  · rw [finished]
    exact ⟨reflects.created, reflects.opened, fun _ => begun, reflects.closed, reflects.asked,
      reflects.pending, reflects.flagged⟩

theorem turn (reflects : life.Reflects deeds) (held : life.Held) {told : List Deed}
    (turn : Turn life deeds next told) : next.Reflects told := by
  cases turn with
  | idle => exact reflects
  | registered =>
      refine reflects.of_same ?_ rfl .rfl
      exact ⟨rfl, rfl, rfl, rfl⟩
  | called accepts => exact reflects.of_accepts accepts
  | missed misses => exact reflects.of_same (reflects.same_of_misses held misses) rfl .rfl
  | opened _ begun => exact reflects.finishOpen begun
  | settled given =>
      obtain ⟨_, _, rfl⟩ := releaseNative_ok given
      refine tryTeardown (reflects.of_same ?_ rfl .rfl)
      exact ⟨rfl, rfl, rfl, rfl⟩
  | forwarded forwards => exact reflects.of_forwards forwards
  | retained taken =>
      obtain ⟨_, rfl, _⟩ := retain_ok taken
      refine reflects.of_silent ?_ _ ?_ ?_
      · exact ⟨rfl, rfl, rfl, rfl⟩
      all_goals rfl
  | released given =>
      obtain ⟨_, _, rfl⟩ := release_ok given
      refine tryTeardown (reflects.of_silent ?_ _ ?_ ?_)
      · exact ⟨rfl, rfl, rfl, rfl⟩
      all_goals rfl
  | unreleased =>
      refine reflects.of_silent ?_ _ ?_ ?_
      · exact ⟨rfl, rfl, rfl, rfl⟩
      all_goals rfl

end Lifecycle.Reflects

/-! ## The order of callbacks -/

/-- A turn adds no callback, or that of an event which the lifecycle accepts. -/
theorem Turn.told_cases {life next : Lifecycle} {deeds told : List Deed}
    (turn : Turn life deeds next told) :
    told = deeds ∨ (∃ deed, told = deeds ++ [deed] ∧ deed.callback? = none) ∨
    ∃ event target, life.Accepts event target next ∧ told = deeds ++ [.callback event.kind] := by
  cases turn with
  | called accepts => exact .inr (.inr ⟨_, _, accepts, rfl⟩)
  | forwarded => exact .inr (.inl ⟨_, rfl, rfl⟩)
  | retained => exact .inr (.inl ⟨_, rfl, rfl⟩)
  | released => exact .inr (.inl ⟨_, rfl, rfl⟩)
  | unreleased => exact .inr (.inl ⟨_, rfl, rfl⟩)
  | _ => exact .inl rfl

/-- The open request is accepted before any callback. -/
theorem Lifecycle.Reflects.unopened_of_accepts {life next : Lifecycle} {deeds : List Deed}
    {event : SocketEvent} {target : TargetId} (reflects : life.Reflects deeds)
    (accepts : life.Accepts event target next) (opening : event.kind = .openRequest) :
    callbacksIn deeds = [] := by
  cases accepts with
  | openRequest begun => exact reflects.created (beginOpen_ok begun).1
  | _ => cases opening

/-- No event is accepted once `on_closed` has begun. -/
theorem Lifecycle.Reflects.unclosed_of_accepts {life next : Lifecycle} {deeds : List Deed}
    {event : SocketEvent} {target : TargetId} (reflects : life.Reflects deeds)
    (accepts : life.Accepts event target next) : .callback .closed ∉ deeds := by
  rw [← reflects.closed, accepts.keeps.live]
  exact Bool.false_ne_true

theorem InOrder.concat {callbacks : List EventKind} (inOrder : InOrder callbacks)
    (unclosed : .closed ∉ callbacks) {event : EventKind}
    (fresh : event = .openRequest → callbacks = []) : InOrder (callbacks ++ [event]) where
  openOnce := by
    rw [List.count_append]
    by_cases opening : event = .openRequest
    · rw [fresh opening, opening]
      decide
    · have absent : List.count .openRequest [event] = 0 :=
        List.count_eq_zero_of_not_mem (by simpa using Ne.symm opening)
      have once := inOrder.openOnce
      omega
  closedOnce := by
    rw [List.count_append, List.count_eq_zero_of_not_mem unclosed]
    cases event <;> decide
  closedLast earlier later split := by
    rcases split_concat split with ⟨nothing, _, _⟩ | ⟨rest, _, begun⟩
    · exact nothing
    · exact absurd (by rw [begun]; simp) unclosed

theorem InOrder.turn {life next : Lifecycle} {deeds told : List Deed}
    (inOrder : InOrder (callbacksIn deeds)) (reflects : life.Reflects deeds)
    (turn : Turn life deeds next told) : InOrder (callbacksIn told) := by
  rcases turn.told_cases with rfl | ⟨deed, rfl, untold⟩ | ⟨event, target, accepts, rfl⟩
  · exact inOrder
  · rw [callbacksIn_of_none untold]
    exact inOrder
  · rw [callbacksIn_callback]
    refine inOrder.concat ?_ fun opening => reflects.unopened_of_accepts accepts opening
    rw [mem_callbacksIn]
    exact reflects.unclosed_of_accepts accepts

/-- A stream event is accepted after the open request, or after an early
close. -/
theorem Lifecycle.Reflects.closedEarly_of_accepts {life : Lifecycle} {deeds : List Deed}
    (reflects : life.Reflects deeds) (streaming : life.state.acceptsStreamEvents = true)
    (unopened : .callback .openRequest ∉ deeds) : ClosedEarly deeds := by
  refine ⟨?_, unopened, ?_⟩
  · rw [← reflects.asked]
    rcases (SocketState.acceptsStreamEvents_iff life.state).mp streaming with
      opening | opened | pending
    · exact absurd (reflects.opened (.inl opening)) unopened
    · exact absurd (reflects.opened (.inr opened)) unopened
    · exact (reflects.pending pending).resolve_left unopened
  · rw [← reflects.closed, SocketState.not_isClosed_of_acceptsStreamEvents streaming]
    exact Bool.false_ne_true

/-- After an early close, the events of the stream are accepted. -/
theorem Lifecycle.Reflects.streaming_of_closedEarly {life : Lifecycle} {deeds : List Deed}
    (reflects : life.Reflects deeds) (early : ClosedEarly deeds) :
    life.state.acceptsStreamEvents = true := by
  rcases reflects.flagged (reflects.asked.mpr early.asked) with pending | closed
  · rw [pending]
    rfl
  · exact absurd (reflects.closed.mp closed) early.unclosed

theorem Excused.turn {life next : Lifecycle} {deeds told : List Deed} (excused : Excused deeds)
    (reflects : life.Reflects deeds) (turn : Turn life deeds next told) : Excused told := by
  rcases turn.told_cases with rfl | ⟨deed, rfl, untold⟩ | ⟨event, target, accepts, rfl⟩
  · exact excused
  · intro earlier event later split stream unopened
    rcases split_concat split with ⟨_, _, same⟩ | ⟨rest, _, before⟩
    · rw [← same] at untold
      cases untold
    · exact excused earlier event rest before stream unopened
  · intro earlier event' later split stream unopened
    rcases split_concat split with ⟨_, rfl, same⟩ | ⟨rest, _, before⟩
    · obtain rfl := Deed.callback.inj same
      refine reflects.closedEarly_of_accepts ?_ unopened
      cases accepts with
      | writeCompleted accepted => exact (Lifecycle.acceptWriteCompleted_ok accepted).1
      | received accepted => exact (Lifecycle.acceptReceived_ok accepted).1
      | closeRequest accepted => exact (Lifecycle.acceptCloseRequest_ok accepted).1
      | _ => cases stream
    · exact excused earlier event' rest before stream unopened

/-! ## Runs -/

namespace Reachable

variable {σ : Type} [Custodian σ] {world : World σ Mark}

/-- The state of a registration tells which of its callbacks have begun. -/
theorem reflects (reached : Reachable world) (id : EntryId) :
    (world.life id).Reflects (world.deeds id) :=
  reached.registration .fresh (fun held reflects turn => reflects.turn held turn) id

private theorem ordered (reached : Reachable world) (id : EntryId) :
    (world.life id).Reflects (world.deeds id) ∧ InOrder (callbacksIn (world.deeds id)) ∧
      Excused (world.deeds id) := by
  let holds (life : Lifecycle) (deeds : List Deed) : Prop :=
    life.Reflects deeds ∧ InOrder (callbacksIn deeds) ∧ Excused deeds
  have begins : holds {} [] := by
    refine ⟨.fresh, ⟨by decide, by decide, ?_⟩, ?_⟩
    · intro earlier later split
      cases earlier <;> cases split
    · intro earlier _ _ split
      cases earlier <;> cases split
  have kept : holds (world.life id) (world.deeds id) :=
    reached.registration begins
      (fun held ⟨reflects, inOrder, excused⟩ turn =>
        ⟨reflects.turn held turn, inOrder.turn reflects turn, excused.turn reflects turn⟩) id
  exact kept

/-- In every run, `on_open` and `on_closed` begin at most once for a
registration, and nothing begins after `on_closed`. -/
theorem callbacks_inOrder (reached : Reachable world) (id : EntryId) :
    InOrder (world.callbacks id) :=
  (reached.ordered id).2.1

/-- A connection whose target, told of the end, reports it anew and panics. -/
def endedTwice : World Bystander Mark :=
  let ended := BridgeCall.native Bystander.handle (.closed 0 1000 [])
  let anew : SocketEvent → UserCode Bystander Unit
    | .closed _ => .call ended fun _ => .unwind .other
    | _ => .finish ()
  (Bystander.answering anew).inTurn 2 [.adoptInbound Bystander.handle ⟨0⟩, ended,
    .native Bystander.handle (.writeCompleted 0), ended] Bystander.start

theorem callbacks_inOrder_of_ended_twice :
    endedTwice.callbacks ⟨0⟩ = [.closed] ∧ InOrder (endedTwice.callbacks ⟨0⟩) := by
  have reached : Reachable endedTwice := Bystander.reachable_inTurn _ _ _
  exact ⟨by decide +kernel, callbacks_inOrder reached ⟨0⟩⟩

/-- A close request from the native side begins where the events of the stream
are accepted and the runtime works. -/
theorem closeRequest_begins (reached : Reachable world) {id : EntryId} {entry : Entry}
    (found : world.entry? id = some entry)
    (streaming : (world.life id).state.acceptsStreamEvents = true) (works : world.runtime.Works)
    (behaviour : Behaviour σ) (depth : Nat) (status : Int) (message : Bytes) :
    .callback .closeRequest ∈
      ((BridgeCall.native entry.handle (.closeRequest status message)).make behaviour (depth + 1)
        world).2.deeds id := by
  let call := BridgeCall.native entry.handle (.closeRequest status message)
  let called := world.push (.marked (.called call))
  have calledSound : called.Sound := reached.sound.push _
  have live := SocketState.not_isClosed_of_acceptsStreamEvents streaming
  have genuine : called.Genuine ⟨id, entry.handle⟩ := ⟨entry, found, rfl⟩
  have known : called.peer? entry.handle = some ⟨id, entry.handle⟩ :=
    calledSound.peer?_of_genuine genuine (SocketState.ne_disposed_of_not_isClosed live)
  have told := Delivery.onCloseRequest_tells (behaviour.host_make_evolves depth) calledSound known
    streaming works status message
  have performed := BridgeCall.replyTo_world (α := Unit)
    (Delivery.onCloseRequest (behaviour.host (BridgeCall.make behaviour depth)) entry.handle status
      message) (fun _ => .done) called
  rw [BridgeCall.make_succ]
  unfold BridgeCall.replied
  rw [World.deeds_push]
  exact List.mem_append_left _ (performed ▸ told)

/-- The one way for an event of the stream to begin before `on_open`: after an
early close. Then the lifecycle accepts the events of the stream, and the next
close request from the native side begins, wherever the runtime works. -/
theorem stream_before_open (reached : Reachable world) (id : EntryId) :
    Excused (world.deeds id) ∧
    (.callback .openRequest ∉ world.deeds id →
      ((world.life id).state.acceptsStreamEvents = true ↔ ClosedEarly (world.deeds id))) ∧
    ∀ entry, world.entry? id = some entry → ClosedEarly (world.deeds id) →
      world.runtime.Works → ∀ (behaviour : Behaviour σ) depth status message,
        .callback .closeRequest ∈
          ((BridgeCall.native entry.handle (.closeRequest status message)).make behaviour
            (depth + 1) world).2.deeds id := by
  obtain ⟨reflects, _, excused⟩ := reached.ordered id
  refine ⟨excused, fun unopened => ⟨fun streaming => ?_, fun early => ?_⟩, ?_⟩
  · exact reflects.closedEarly_of_accepts streaming unopened
  · exact reflects.streaming_of_closedEarly early
  · intro entry found early works behaviour depth status message
    have streaming := reflects.streaming_of_closedEarly early
    exact reached.closeRequest_begins found streaming works behaviour depth status message

/-- A connection that the managed side asks to close before it was opened. -/
def closedFirst : World Bystander Mark :=
  (Bystander.answering fun _ => .finish ()).inTurn 1
    [.adoptInbound Bystander.handle ⟨0⟩, .socket ⟨0⟩ (.closeRequest 1000 ""),
      .native Bystander.handle (.received (.transferable [1, 2]))] Bystander.start

/-- Bytes are delivered to a target that never heard of an open request, and so
will be a close request. -/
theorem stream_before_open_of_closed_first :
    closedFirst.deeds ⟨0⟩ =
      [.forwarded (.closeRequest 1000 ""), .callback .received] ∧
    (closedFirst.life ⟨0⟩).state.acceptsStreamEvents = true ∧
    ∃ entry, closedFirst.entry? ⟨0⟩ = some entry ∧
      .callback .closeRequest ∈
        ((BridgeCall.native entry.handle (.closeRequest 1000 [])).make
          (Bystander.answering fun _ => .finish ()) 1 closedFirst).2.deeds ⟨0⟩ := by
  have told : closedFirst.deeds ⟨0⟩ =
      [.forwarded (.closeRequest 1000 ""), .callback .received] := by decide +kernel
  have early : ClosedEarly (closedFirst.deeds ⟨0⟩) := by
    rw [told]
    exact ⟨⟨_, List.mem_cons_self, rfl⟩, by decide, by decide⟩
  have reached : Reachable closedFirst := Bystander.reachable_inTurn _ _ _
  obtain ⟨_, streaming, next⟩ := stream_before_open reached ⟨0⟩
  obtain ⟨entry, found⟩ : ∃ entry, closedFirst.entry? ⟨0⟩ = some entry :=
    Option.isSome_iff_exists.mp (by decide +kernel)
  have works : closedFirst.runtime.Works := by
    have kept : closedFirst.runtime = .inProcess := by decide +kernel
    rw [kept]
    exact trivial
  exact ⟨told, (streaming early.unopened).mpr early, entry, found,
    next entry found early works _ 0 1000 []⟩

end Reachable

end TransportBridge
