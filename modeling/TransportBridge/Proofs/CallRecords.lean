import TransportBridge.Proofs.Undelivered

/-!
Contract: what a trace tells of each call by itself.

Calls nest, so that a trace is read with the calls under way at hand, the
innermost first. What is done belongs to the innermost call; a call that ends
is recorded with its reply and with what it has done by itself, and nothing of
what was done by calls within it.

Owns: the reading of a trace, what is counted of calls that have ended, and
when the record of a call from the native side is fair to its reply.

Does not own: that the records of a run are fair.
-/

namespace TransportBridge

/-! ## Frames -/

/-- A call, and what it has done by itself. -/
structure Frame where
  call : BridgeCall
  own : List (Moment Mark) := []

/-- A call that has ended. -/
structure Ended extends Frame where
  reply : Reply

/-- A buffer that has come in: its callback has begun. -/
structure Arrival where
  entry : EntryId
  data : NativeBuffer Hook
deriving DecidableEq

def Moment.hook? {μ : Type} : Moment μ → Option Hook
  | .hookRan hook => some hook
  | _ => none

def Moment.isCallback {μ : Type} : Moment μ → Bool
  | .callback _ _ _ _ => true
  | _ => false

/-- Something that a call does by itself: no record of the log, and neither the
beginning nor the end of a call. -/
def Moment.isOwn {μ : Type} : Moment μ → Bool
  | .noted _ | .marked _ => false
  | _ => true

/-- Hooks that run are hooks, and nobody is called back by them. -/
theorem Moment.hooks_hookRan (hooks : List Hook) :
    (hooks.map .hookRan : List (Moment Mark)).filterMap Moment.hook? = hooks ∧
      (hooks.map .hookRan : List (Moment Mark)).filter Moment.isCallback = [] := by
  simp [List.filter_map, Function.comp_def, Moment.hook?, Moment.isCallback]

theorem Moment.isOwn_hookRan (hooks : List Hook) :
    ∀ moment ∈ (hooks.map .hookRan : List (Moment Mark)), moment.isOwn = true := by
  simp [Moment.isOwn]

namespace Frame

/-- The hooks that the call has run, in order. -/
def hooks (frame : Frame) : List Hook :=
  frame.own.filterMap Moment.hook?

def callbacks (frame : Frame) : List (Moment Mark) :=
  frame.own.filter Moment.isCallback

/-- The innermost call goes on. -/
def extend (own : List (Moment Mark)) : List Frame → List Frame
  | [] => []
  | frame :: outer => { frame with own := frame.own ++ own } :: outer

theorem extend_nil (frames : List Frame) : extend [] frames = frames := by
  cases frames with
  | nil => rfl
  | cons frame outer => simp [extend]

theorem extend_append (one two : List (Moment Mark)) (frames : List Frame) :
    extend (one ++ two) frames = extend two (extend one frames) := by
  cases frames with
  | nil => rfl
  | cons frame outer => simp [extend]

/-- The buffer that comes in by a callback, for the call that it is made in. -/
def arriving : Moment Mark → List Frame → List Arrival
  | .callback peer _ (.received _) _, ⟨.native _ (.received data), _⟩ :: _ => [⟨peer.entry, data⟩]
  | _, _ => []

theorem arriving_of_not_isCallback {moment : Moment Mark} (silent : moment.isCallback = false)
    (frames : List Frame) : arriving moment frames = [] := by
  unfold arriving
  split
  · cases silent
  · rfl

end Frame

/-! ## Reading -/

/-- What has been read of a trace. -/
structure Reading where
  /-- The calls under way, the innermost first. -/
  frames : List Frame := []
  /-- The calls that have ended, in the order of ending. -/
  ended : List Ended := []
  arrivals : List Arrival := []

namespace Reading

def read (reading : Reading) (moment : Moment Mark) : Reading :=
  match moment with
  | .noted _ => reading
  | .marked (.called call) => { reading with frames := { call } :: reading.frames }
  | .marked (.replied _ reply) =>
    match reading.frames with
    | [] => reading
    | frame :: outer =>
      { reading with frames := outer, ended := reading.ended ++ [{ frame with reply }] }
  | _ => { reading with
      frames := Frame.extend [moment] reading.frames
      arrivals := reading.arrivals ++ Frame.arriving moment reading.frames }

/-- All calls, under way or ended. -/
def records (reading : Reading) : List Frame :=
  reading.frames ++ reading.ended.map Ended.toFrame

variable {reading : Reading}

theorem read_own (reading : Reading) {moment : Moment Mark} (own : moment.isOwn = true) :
    reading.read moment = { reading with
      frames := Frame.extend [moment] reading.frames
      arrivals := reading.arrivals ++ Frame.arriving moment reading.frames } := by
  cases moment with
  | noted => cases own
  | marked => cases own
  | _ => rfl

/-- Hooks belong to the innermost call, and nothing comes in by them. -/
theorem foldl_hooks (hooks : List Hook) :
    (hooks.map Moment.hookRan).foldl read reading =
      { reading with frames := Frame.extend (hooks.map Moment.hookRan) reading.frames } := by
  induction hooks generalizing reading with
  | nil =>
      rw [List.map_nil, List.foldl_nil, Frame.extend_nil]
  | cons hook rest inductionHypothesis =>
      have first : reading.read (.hookRan hook) = { reading with
          frames := Frame.extend [.hookRan hook] reading.frames } := by
        rw [read_own reading rfl, Frame.arriving_of_not_isCallback rfl, List.append_nil]
      rw [List.map_cons, List.foldl_cons, inductionHypothesis, first,
        ← List.singleton_append (l := rest.map Moment.hookRan), Frame.extend_append]

theorem frames_foldl (reading : Reading) {own : List (Moment Mark)}
    (all : ∀ moment ∈ own, moment.isOwn = true) :
    (own.foldl read reading).frames = Frame.extend own reading.frames ∧
      (own.foldl read reading).ended = reading.ended := by
  induction own generalizing reading with
  | nil => exact ⟨(Frame.extend_nil _).symm, rfl⟩
  | cons moment rest inductionHypothesis =>
      have first := read_own reading (all moment List.mem_cons_self)
      obtain ⟨frames, ended⟩ := inductionHypothesis (reading.read moment)
        fun other member => all other (List.mem_cons_of_mem _ member)
      rw [List.foldl_cons, frames, ended, first, ← List.singleton_append (l := rest),
        Frame.extend_append]
      exact ⟨rfl, rfl⟩

/-! ### What records tell of -/

/-- What calls have done by themselves has happened, and bytes that a call has
told of have come in. -/
structure Faithful (done : List (Moment Mark)) (reading : Reading) : Prop where
  own : ∀ record ∈ reading.records, record.own ⊆ done
  arrived : ∀ record ∈ reading.records, ∀ handle data peer target bytes attached,
    record.call = .native handle (.received data) →
      .callback peer target (.received bytes) attached ∈ record.own →
        ⟨peer.entry, data⟩ ∈ reading.arrivals

/-- Whatever happens, the records are the old ones, a new one, or that of the
innermost call with what it does. -/
theorem mem_records_read {record : Frame} {moment : Moment Mark}
    (member : record ∈ (reading.read moment).records) :
    record ∈ reading.records ∨ record.own = [] ∨
      ∃ frame outer, reading.frames = frame :: outer ∧ moment.isOwn = true ∧
        record = { frame with own := frame.own ++ [moment] } := by
  by_cases own : moment.isOwn = true
  · rw [records, read_own reading own] at member
    cases frames : reading.frames with
    | nil =>
        rw [frames] at member
        exact .inl (List.mem_append_right _ member)
    | cons frame outer =>
        rw [frames] at member
        rcases List.mem_cons.mp member with rfl | other
        · exact .inr (.inr ⟨frame, outer, rfl, own, rfl⟩)
        · rw [records, frames]
          exact .inl (List.mem_cons_of_mem _ other)
  · cases moment with
    | noted => exact .inl member
    | marked mark =>
        cases mark with
        | called call =>
            rcases List.mem_cons.mp member with rfl | old
            · exact .inr (.inl rfl)
            · exact .inl old
        | replied call reply =>
            unfold read at member
            cases frames : reading.frames with
            | nil =>
                simp only [frames] at member
                exact .inl member
            | cons frame outer =>
                simp only [frames, records, List.map_append, List.map_cons, List.map_nil,
                  List.mem_append, List.mem_singleton] at member
                simp only [records, frames, List.cons_append, List.mem_cons, List.mem_append]
                rcases member with still | ended | last
                · exact .inl (.inr (.inl still))
                · exact .inl (.inr (.inr ended))
                · exact .inl (.inl last)
    | _ => exact absurd rfl own

/-- Nothing comes in when a call begins or ends. -/
theorem arrivals_of_not_own (reading : Reading) {moment : Moment Mark}
    (foreign : moment.isOwn = false) : (reading.read moment).arrivals = reading.arrivals := by
  cases moment with
  | noted => rfl
  | marked mark =>
      cases mark with
      | called => rfl
      | replied =>
          unfold read
          cases reading.frames <;> rfl
  | _ => cases foreign

theorem arrivals_read (reading : Reading) (moment : Moment Mark) :
    reading.arrivals ⊆ (reading.read moment).arrivals := by
  cases own : moment.isOwn with
  | true =>
      rw [read_own reading own]
      exact List.subset_append_left _ _
  | false =>
      rw [arrivals_of_not_own reading own]
      exact List.Subset.refl _

/-- Nothing comes in without a callback. -/
theorem arrivals_foldl (reading : Reading) {done : List (Moment Mark)}
    (silent : ∀ moment ∈ done, moment.isCallback = false) :
    (done.foldl read reading).arrivals = reading.arrivals := by
  induction done generalizing reading with
  | nil => rfl
  | cons moment rest inductionHypothesis =>
      obtain ⟨quiet, others⟩ := List.forall_mem_cons.mp silent
      have one : (reading.read moment).arrivals = reading.arrivals := by
        cases own : moment.isOwn with
        | true =>
            rw [read_own reading own]
            show _ ++ _ = _
            rw [Frame.arriving_of_not_isCallback quiet, List.append_nil]
        | false => exact arrivals_of_not_own reading own
      rw [List.foldl_cons, inductionHypothesis _ others, one]

theorem Faithful.read {done : List (Moment Mark)} (faithful : reading.Faithful done)
    (moment : Moment Mark) : (reading.read moment).Faithful (done ++ [moment]) := by
  refine ⟨fun record member => ?_,
    fun record member handle data peer target bytes attached call told => ?_⟩
  · rcases mem_records_read member with old | bare | ⟨frame, outer, frames, _, rfl⟩
    · exact List.Subset.trans (faithful.own record old) (List.subset_append_left _ _)
    · rw [bare]
      exact List.nil_subset _
    · have before : frame ∈ reading.records := by simp [records, frames]
      have kept : frame.own ⊆ done ++ [moment] :=
        List.Subset.trans (faithful.own frame before) (List.subset_append_left _ _)
      exact List.append_subset.mpr ⟨kept, List.subset_append_right _ _⟩
  · rcases mem_records_read member with old | bare | ⟨frame, outer, frames, own, rfl⟩
    · exact arrivals_read _ _ (faithful.arrived record old _ _ _ _ _ _ call told)
    · rw [bare] at told
      cases told
    · rcases List.mem_append.mp told with before | now
      · have old : frame ∈ reading.records := by simp [records, frames]
        exact arrivals_read _ _ (faithful.arrived frame old _ _ _ _ _ _ call before)
      · obtain rfl := List.mem_singleton.mp now
        obtain ⟨made, _⟩ := frame
        obtain rfl : made = _ := call
        rw [read_own reading own, frames]
        exact List.mem_append_right _ (List.mem_singleton.mpr rfl)

theorem Faithful.foldl {done : List (Moment Mark)} (faithful : reading.Faithful done)
    (more : List (Moment Mark)) : (more.foldl Reading.read reading).Faithful (done ++ more) := by
  induction more generalizing reading done with
  | nil => rwa [List.append_nil]
  | cons moment rest inductionHypothesis =>
      rw [List.foldl_cons, ← List.singleton_append (l := rest), ← List.append_assoc]
      exact inductionHypothesis (faithful.read moment)

/-- The reading of a trace is faithful to it. -/
theorem faithful (done : List (Moment Mark)) : (done.foldl Reading.read {}).Faithful done := by
  have nothing : Faithful [] {} := ⟨nofun, nofun⟩
  exact nothing.foldl done

end Reading

namespace World

variable {σ : Type} {world after : World σ Mark}

def reading (world : World σ Mark) : Reading :=
  world.acts.foldl Reading.read {}

/-- The hooks that have run, in order. -/
def hooksRun (world : World σ Mark) : List Hook :=
  world.acts.filterMap Moment.hook?

theorem reading_of_acts {done : List (Moment Mark)} (acts : after.acts = world.acts ++ done) :
    after.reading = done.foldl Reading.read world.reading := by
  unfold reading
  rw [acts, List.foldl_append]

theorem reading_called (world : World σ Mark) (call : BridgeCall) :
    (world.push (.marked (.called call))).reading =
      { world.reading with frames := { call } :: world.reading.frames } :=
  reading_of_acts (world.acts_push _)

/-- The innermost call ends. -/
theorem reading_replied {frame : Frame} {outer : List Frame}
    (frames : world.reading.frames = frame :: outer) (call : BridgeCall) (reply : Reply) :
    (world.push (.marked (.replied call reply))).reading = { world.reading with
      frames := outer
      ended := world.reading.ended ++ [{ frame with reply }] } := by
  rw [reading_of_acts (world.acts_push _), if_neg (by simp [Moment.isNotice]), List.foldl_cons,
    List.foldl_nil]
  unfold Reading.read
  simp only [frames]

theorem hooksRun_of_acts {done : List (Moment Mark)} (acts : after.acts = world.acts ++ done) :
    after.hooksRun = world.hooksRun ++ done.filterMap Moment.hook? := by
  unfold hooksRun
  rw [acts, List.filterMap_append]

end World

/-! ## What is counted -/

/-- The counters of calls. -/
inductive Counter where
  | dispatched
  | dropped
  | violations
  | attachFailures
deriving DecidableEq, Repr

def Metrics.tallied (metrics : Metrics) : Counter → Nat
  | .dispatched => metrics.dispatched
  | .dropped => metrics.dropped
  | .violations => metrics.invariantViolations
  | .attachFailures => metrics.attachFailures

namespace BridgeError

/-- An event is dropped for it. -/
def drops : BridgeError → Bool
  | .unknownHandle _ | .runtimeAttachment _ _ | .nativeEngine _ => true
  | _ => false

def isAttachment : BridgeError → Bool
  | .runtimeAttachment _ _ => true
  | _ => false

end BridgeError

def BridgeCall.isNative : BridgeCall → Bool
  | .native _ _ => true
  | _ => false

/-- The call was rejected for such an error. -/
def Reply.isFor (cause : BridgeError → Bool) : Reply → Bool
  | .rejected error => cause error
  | _ => false

namespace Ended

/-- A native handle that could not be registered was to be given back, and the
engine panicked over that. -/
def gaveUp (ended : Ended) : Bool :=
  match ended.call, ended.reply with
  | .openOutbound _ _ _, .panicked _ => ended.own.any fun
    | .engineCalled none _ _ => true
    | _ => false
  | _, _ => false

/-- The call counts for the counter. -/
def counts (ended : Ended) : Counter → Bool
  | .dispatched => ended.call.isNative && ended.reply == .done
  | .dropped => ended.call.isNative && ended.reply.isFor BridgeError.drops
  | .violations => ended.reply.isFor BridgeError.isInvariantViolation || ended.gaveUp
  | .attachFailures => ended.call.isNative && ended.reply.isFor BridgeError.isAttachment

/-- What the call adds to the counters. -/
def charge (ended : Ended) (counter : Counter) : Nat :=
  if ended.counts counter then 1 else 0

end Ended

namespace World

variable {σ : Type}

/-- What the bridge has counted. -/
def metric (world : World σ Mark) (counter : Counter) : Nat :=
  world.own.metrics.tallied counter

/-- What there is to count among the calls that have ended. -/
def tally (world : World σ Mark) (counter : Counter) : Nat :=
  world.reading.ended.countP (·.counts counter)

end World

/-! ## Fair records -/

/-- The event that a target is told of when the native side reports it. -/
def NativeEvent.told : NativeEvent → SocketEvent
  | .openRequest address options => .openRequest address (options.data.getD [])
  | .writeCompleted byteCount => .writeCompleted byteCount
  | .received data => .received (data.data.getD [])
  | .closeRequest status message => .closeRequest status (decodeOrPlaceholder message).1
  | .closed domain code message => .closed (translate domain code message).1

/-- One callback has begun, for the handle and with the event of the report. -/
def Frame.Tells (frame : Frame) (handle : Handle) (event : NativeEvent) : Prop :=
  ∃ peer target attached,
    frame.callbacks = [.callback peer target event.told attached] ∧ peer.handle = handle

/-- The hooks that a report runs by itself until it is answered, where it comes
with a buffer. Options are dropped in any case; received bytes are dropped when
they are rejected, and as they came if nobody knows the handle. -/
def NativeEvent.frees (handle : Handle) : NativeEvent → Reply → Option (List Hook)
  | .openRequest _ options, _ => some options.spent.dropped
  | .received data, .rejected error =>
    some (if error = .unknownHandle handle then data.dropped else data.spent.dropped)
  | .received _, _ => some []
  | _, _ => none

/-- What a report of the native side has done by itself agrees with its reply.
Only the factory may panic before anybody is told. -/
structure Ended.FairTo (ended : Ended) (handle : Handle) (event : NativeEvent) : Prop where
  told : (∀ error, ended.reply ≠ .rejected error) → ended.Tells handle event ∨
    event.kind = .openRequest ∧ ∃ panic, ended.reply = .panicked panic
  rejected : ∀ error, ended.reply = .rejected error → ended.callbacks = []
  hooks : ∀ hooks, event.frees handle ended.reply = some hooks → ended.hooks = hooks

def Ended.Fair (ended : Ended) : Prop :=
  ∀ handle event, ended.call = .native handle event → ended.FairTo handle event

end TransportBridge
