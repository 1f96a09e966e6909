import TransportBridge.Proofs.Likeness

/-!
Contract: runs of the bridge that are in accord.

A scope says which handles, registrations and targets two runs share, and what
they may differ in. A link of their worlds is a bond if every primitive step of
the bridge that stays in the scope keeps it; the runs are in accord if all
their links are bonds, and delivering an event in a managed context keeps the
runs in step. Then every call of the bridge that stays in the scope keeps them
in step, as far as the two hosts go in step where they are called.

Owns: scopes, bonds and accords; that calls over hosts in step are in step, and
that runs of any depth are.

Does not own: any bond in particular.
-/

namespace TransportBridge

variable {σ τ α β γ δ : Type}

/-! ## Scopes -/

/-- What two runs share. -/
structure Scope where
  /-- The two need not be handed the same buffers, as long as the bytes are the
  same. -/
  free : Prop
  /-- Registrations are made. -/
  enrols : Prop
  handles : Handle → Prop
  entries : EntryId → Prop
  targets : TargetId → Prop
  all : enrols → (∀ handle, handles handle) ∧ (∀ entry, entries entry) ∧ ∀ target, targets target

/-- Nothing is out of scope. -/
def Scope.whole (free : Prop) : Scope :=
  ⟨free, True, fun _ => True, fun _ => True, fun _ => True,
    fun _ => ⟨fun _ => trivial, fun _ => trivial, fun _ => trivial⟩⟩

/-- The same, but that a disposal may have freed other buffers. -/
inductive Notice.Like (free : Prop) : Notice → Notice → Prop where
  | same (notice : Notice) : Like free notice notice
  | disposed (isFree : free) (handle : Handle) (freed freed' : Nat) :
      Like free (.disposed handle freed) (.disposed handle freed')

/-- The same, but that the bytes may come in other buffers. -/
inductive NativeEvent.Like (free : Prop) : NativeEvent → NativeEvent → Prop where
  | same (event : NativeEvent) : Like free event event
  | openRequest (address : Address) {options options' : NativeBuffer Hook}
      (alike : options.Like free options') :
      Like free (.openRequest address options) (.openRequest address options')
  | received {data data' : NativeBuffer Hook} (alike : data.Like free data') :
      Like free (.received data) (.received data')

namespace Scope

structure Owns (scope : Scope) (peer : Peer) : Prop where
  handle : scope.handles peer.handle
  entry : scope.entries peer.entry

theorem owns_of_enrols {scope : Scope} (enrols : scope.enrols) (peer : Peer) : scope.Owns peer :=
  ⟨(scope.all enrols).1 _, (scope.all enrols).2.1 _⟩

/-- The calls that the two runs may make for each other. -/
inductive Permits (scope : Scope) : BridgeCall → BridgeCall → Prop where
  | openOutbound (enrols : scope.enrols) (address : Address) (framing : Option Framing)
      (target : TargetId) :
      Permits scope (.openOutbound address framing target) (.openOutbound address framing target)
  | adoptInbound (enrols : scope.enrols) (handle : Handle) (target : TargetId) :
      Permits scope (.adoptInbound handle target) (.adoptInbound handle target)
  | native {handle : Handle} (owns : scope.handles handle) {event event' : NativeEvent}
      (alike : event.Like scope.free event') :
      Permits scope (.native handle event) (.native handle event')
  | socket {entry : EntryId} (owns : scope.entries entry) (call : SocketCall) :
      Permits scope (.socket entry call) (.socket entry call)

theorem permits_whole (free : Prop) (call : BridgeCall) : (Scope.whole free).Permits call call := by
  cases call with
  | openOutbound address framing target => exact .openOutbound trivial address framing target
  | adoptInbound handle target => exact .adoptInbound trivial handle target
  | native handle event => exact .native trivial (.same event)
  | socket entry call => exact .socket trivial call

/-- The moments that the two runs may record for each other. Callbacks are apart,
as they are called in a managed context. -/
inductive Tells (scope : Scope) : Moment Mark → Moment Mark → Prop where
  | noted {notice notice' : Notice} (alike : notice.Like scope.free notice') :
      Tells scope (.noted notice) (.noted notice')
  | hookRan (hook : Hook) : Tells scope (.hookRan hook) (.hookRan hook)
  | forwarded {peer : Peer} (owns : scope.Owns peer) (call : EngineCall) :
      Tells scope (.engineCalled (some peer.entry) peer.handle call)
        (.engineCalled (some peer.entry) peer.handle call)
  | returned (enrols : scope.enrols) (handle : Handle) (call : EngineCall) :
      Tells scope (.engineCalled none handle call) (.engineCalled none handle call)
  | engineAsked (enrols : scope.enrols) (address : Address) (framing : Framing) :
      Tells scope (.engineAsked address framing) (.engineAsked address framing)
  | factoryAsked (enrols : scope.enrols) (factory : FactoryId) (handle : Handle)
      (address : Address) (options : Bytes) :
      Tells scope (.factoryAsked factory handle address options)
        (.factoryAsked factory handle address options)
  | called {call call' : BridgeCall} (permits : scope.Permits call call') :
      Tells scope (.marked (.called call)) (.marked (.called call'))
  | replied {call call' : BridgeCall} (permits : scope.Permits call call') (reply : Reply) :
      Tells scope (.marked (.replied call reply)) (.marked (.replied call' reply))

end Scope

/-! ## Bonds -/

/-- The handle stands for nothing any more. -/
def World.unbound (world : World σ Mark) (handle : Handle) : World σ Mark :=
  { world with own := { world.own with registry := world.own.registry.erase handle } }

/-- A link that the primitive steps within the scope keep, and through which they
look alike. -/
structure Bond [Custodian σ] [Custodian τ] (scope : Scope) (link : Link σ τ) : Prop where
  config {world twin} (linked : link world twin) : world.config = twin.config
  factory {world twin} (linked : link world twin) : world.factory = twin.factory
  factoryless {world twin} (linked : link world twin) : world.factory = none ∨ scope.enrols
  sizes {world twin} (linked : link world twin) : world.entries.size = twin.entries.size
  lookup {world twin} (linked : link world twin) {handle} (owns : scope.handles handle) :
      world.own.registry.lookup? handle = twin.own.registry.lookup? handle
  bound {world twin} (linked : link world twin) {handle} (owns : scope.handles handle) {entry}
      (found : world.own.registry.lookup? handle = some entry) : scope.entries entry
  named {world twin} (linked : link world twin) {entry} (owns : scope.entries entry) :
      (world.entry? entry).map Entry.handle = (twin.entry? entry).map Entry.handle
  names {world twin} (linked : link world twin) {entry} (owns : scope.entries entry)
      {registration} (found : world.entry? entry = some registration) :
      scope.handles registration.handle
  life {world twin} (linked : link world twin) {entry} (owns : scope.entries entry) :
      (world.life entry).Like scope.free (twin.life entry)
  pinned {world twin} (linked : link world twin) {entry} (owns : scope.entries entry) :
      (world.life entry).PinsTo scope.targets
  isHeld {world twin} (linked : link world twin) {entry} (owns : scope.entries entry) :
      Custody.isHeld world entry = Custody.isHeld twin entry
  setLife {world twin} (linked : link world twin) {entry} (owns : scope.entries entry)
      {life life' : Lifecycle} (alike : life.Like scope.free life')
      (pinned : life.PinsTo scope.targets) :
      link (world.setLife entry life) (twin.setLife entry life')
  push {world twin} (linked : link world twin) {moment moment'}
      (tells : scope.Tells moment moment') : link (world.push moment) (twin.push moment')
  hookRan {world twin} (linked : link world twin) (isFree : scope.free) (hook : Hook) :
      link (world.push (.hookRan hook)) twin ∧ link world (twin.push (.hookRan hook))
  count {world twin} (linked : link world twin) (change : Metrics → Metrics) :
      link (world.count .own change) (twin.count .own change)
  engage {world twin} (linked : link world twin) {entry} (owns : scope.entries entry) :
      link { world with engaged := entry :: world.engaged }
        { twin with engaged := entry :: twin.engaged }
  disengage {world twin} (linked : link world twin) {entry} (owns : scope.entries entry) :
      link { world with engaged := world.engaged.erase entry }
        { twin with engaged := twin.engaged.erase entry }
  lent {world twin} (linked : link world twin) (change : List TargetId → List TargetId) :
      link { world with lent := change world.lent } { twin with lent := change twin.lent }
  unbound {world twin} (linked : link world twin) {handle} (owns : scope.handles handle) :
      link (world.unbound handle) (twin.unbound handle)
  forget {world twin} (linked : link world twin) {target} (owns : scope.targets target) :
      Ends link (fun known other => known = other ∧ ∀ entry, known = some entry → scope.entries entry)
        (Custody.forgetTarget target world) (Custody.forgetTarget target twin)
  bind {world twin} (linked : link world twin) (enrols : scope.enrols) (handle : Handle)
      (target : TargetId) :
      Ends link Eq (Registration.bind? handle target world) (Registration.bind? handle target twin)

/-- Bonds, which a delivery in a managed context keeps as well. -/
structure Accord [Custodian σ] [Custodian τ] (scope : Scope) (ties : Ties σ τ) : Prop where
  bond {link} (tied : ties link) : Bond scope link
  context {peer : Peer} (owns : scope.Owns peer) {target : TargetId}
      (ownsTarget : scope.targets target) (event : SocketEvent) {body : BridgeM σ Mark Unit}
      {body' : BridgeM τ Mark Unit} (inStep : InStep ties Eq body body') :
      InStep ties Eq
        (Attachment.withAttachedContext event.name fun _ => do
          witness (.callback peer target event (← get).attached?)
          body)
        (Attachment.withAttachedContext event.name fun _ => do
          witness (.callback peer target event (← get).attached?)
          body')

namespace Accord

variable [Custodian σ] [Custodian τ] {scope : Scope} {ties : Ties σ τ} {peer : Peer}
  (accord : Accord scope ties)
include accord

/-! ## Effects -/

theorem witness {moment moment' : Moment Mark} (tells : scope.Tells moment moment') :
    InStep ties Eq (witness moment) (witness moment') :=
  .modify fun _ tied _ _ linked => (accord.bond tied).push linked tells

theorem note {notice notice' : Notice} (alike : notice.Like scope.free notice') :
    InStep ties Eq (note notice) (note notice') :=
  accord.witness (.noted alike)

theorem count (change : Metrics → Metrics) :
    InStep ties Eq (count .own change) (count .own change) :=
  .modify fun _ tied _ _ linked => (accord.bond tied).count linked change

theorem attempt {entry : EntryId} (owns : scope.entries entry) {like : α → β → Prop}
    {step : Lifecycle → Lifecycle.Step α} {step' : Lifecycle → Lifecycle.Step β}
    (steps : ∀ life twin : Lifecycle, life.Like scope.free twin → life.PinsTo scope.targets →
      Answers (Lifecycle.Shifts scope.free scope.targets like) (step life) (step' twin)) :
    InStep ties (Answers like) (attempt entry step) (attempt entry step') := by
  intro link tied world twin linked
  have bond := accord.bond tied
  have answers := steps _ _ (bond.life linked owns) (bond.pinned linked owns)
  unfold TransportBridge.attempt
  generalize step (world.life entry) = answer, step' (twin.life entry) = answer' at answers
  cases answers with
  | refused refusal => exact ⟨.given (.refused refusal), linked⟩
  | given shifts =>
      exact ⟨.given (.given shifts.alike), bond.setLife linked owns shifts.next shifts.pins⟩

theorem change {entry : EntryId} (owns : scope.entries entry) {like : α → β → Prop}
    {step : Lifecycle → α × Lifecycle} {step' : Lifecycle → β × Lifecycle}
    (shift : ∀ life twin : Lifecycle, life.Like scope.free twin → life.PinsTo scope.targets →
      Lifecycle.Shifts scope.free scope.targets like (step life) (step' twin)) :
    InStep ties like (change entry step) (change entry step') := by
  intro link tied world twin linked
  have bond := accord.bond tied
  have shifts := shift _ _ (bond.life linked owns) (bond.pinned linked owns)
  exact ⟨.given shifts.alike, bond.setLife linked owns shifts.next shifts.pins⟩

omit accord [Custodian σ] [Custodian τ] in
/-- Dropping buffers runs their hooks and does nothing else. -/
theorem dropBuffers_keeps (keeps : World σ Mark → Prop)
    (ran : ∀ world hook, keeps world → keeps (world.push (.hookRan hook)))
    (buffers : List (NativeBuffer Hook)) {world : World σ Mark} (kept : keeps world) :
    ∃ after, buffers.forM dropBuffer world = (.ok (), after) ∧ keeps after := by
  induction buffers generalizing world with
  | nil => exact ⟨world, rfl, kept⟩
  | cons buffer rest inductionHypothesis =>
      cases released : buffer.hook with
      | none =>
          obtain ⟨after, dropped, kept⟩ := inductionHypothesis kept
          have none : dropBuffer buffer world = (.ok (), world) := by
            unfold dropBuffer NativeBuffer.dropped
            rw [released]
            rfl
          exact ⟨after, (bind_of_ok none).trans dropped, kept⟩
      | some hook =>
          obtain ⟨after, dropped, kept⟩ := inductionHypothesis (ran world hook kept)
          have one : dropBuffer buffer world = (.ok (), world.push (.hookRan hook)) := by
            unfold dropBuffer NativeBuffer.dropped
            rw [released]
            rfl
          exact ⟨after, (bind_of_ok one).trans dropped, kept⟩

theorem dropBuffer (buffer : NativeBuffer Hook) :
    InStep ties Eq (dropBuffer buffer) (dropBuffer buffer) :=
  .forM fun hook => accord.witness (.hookRan hook)

/-- Buffers that the runs need not share are dropped by each for itself. -/
theorem dropBuffers {buffers buffers' : List (NativeBuffer Hook)}
    (kept : scope.free ∨ buffers = buffers') :
    InStep ties Eq (buffers.forM TransportBridge.dropBuffer)
      (buffers'.forM TransportBridge.dropBuffer) := by
  rcases kept with isFree | rfl
  · intro link tied world twin linked
    have bond := accord.bond tied
    obtain ⟨after, dropped, linked⟩ := dropBuffers_keeps (link · twin)
      (fun _ hook linked => (bond.hookRan linked isFree hook).1) buffers linked
    obtain ⟨after', dropped', linked⟩ := dropBuffers_keeps (link after)
      (fun _ hook linked => (bond.hookRan linked isFree hook).2) buffers' linked
    rw [dropped, dropped']
    exact ⟨.given rfl, linked⟩
  · exact .forM accord.dropBuffer

theorem dropKept {buffer buffer' : NativeBuffer Hook} (kept : scope.free ∨ buffer = buffer') :
    InStep ties Eq (TransportBridge.dropBuffer buffer) (TransportBridge.dropBuffer buffer') := by
  have same {ρ : Type} (buffer : NativeBuffer Hook) :
      (TransportBridge.dropBuffer buffer : BridgeM ρ Mark Unit) =
        [buffer].forM TransportBridge.dropBuffer := bind_pure_unit.symm
  rw [same, same]
  exact accord.dropBuffers (kept.imp_right (congrArg fun buffer => [buffer]))

theorem dropIfAny {buffer buffer' : Option (NativeBuffer Hook)}
    (kept : scope.free ∨ buffer = buffer') :
    InStep ties Eq (Delivery.dropIfAny buffer) (Delivery.dropIfAny buffer') := by
  have same {ρ : Type} (buffer : Option (NativeBuffer Hook)) :
      (Delivery.dropIfAny buffer : BridgeM ρ Mark Unit) =
        buffer.toList.forM TransportBridge.dropBuffer := by
    cases buffer with
    | none => rfl
    | some buffer => exact bind_pure_unit.symm
  rw [same, same]
  exact accord.dropBuffers (kept.imp_right (congrArg Option.toList))

/-! ## Rejections -/

theorem report (error : BridgeError) :
    InStep ties Eq (References.report .own error) (References.report .own error) := by
  unfold References.report
  split
  · exact (accord.count _).andThen fun _ => (accord.note (.same _)).andThen fun _ => .pure rfl
  · exact (accord.note (.same _)).andThen fun _ => .pure rfl

theorem reject (error : BridgeError) {like : α → β → Prop} :
    InStep ties (Answers like) (References.reject .own error : Call σ Mark α).run
      (References.reject .own error : Call τ Mark β).run :=
  .effectThen (accord.report error) fun told => .reject told

theorem checked (owns : scope.Owns peer) {like : α → β → Prop}
    {step : Lifecycle → Lifecycle.Step α} {step' : Lifecycle → Lifecycle.Step β}
    (steps : ∀ life twin : Lifecycle, life.Like scope.free twin → life.PinsTo scope.targets →
      Answers (Lifecycle.Shifts scope.free scope.targets like) (step life) (step' twin)) :
    InStep ties (Answers like) (References.checked .own peer step).run
      (References.checked .own peer step').run := by
  refine .effectBind (accord.attempt owns.entry steps) fun answer answer' answers => ?_
  cases answers with
  | given alike => exact .callPure alike
  | refused refusal => exact accord.reject _

/-! ## Custody -/

theorem forgetTarget {target : TargetId} (owns : scope.targets target) :
    InStep ties (fun known other => known = other ∧ ∀ entry, known = some entry → scope.entries entry)
      (Custody.forgetTarget target) (Custody.forgetTarget target) :=
  fun _ tied _ _ linked => (accord.bond tied).forget linked owns

theorem letGoWithin (bound : Nat) {entry : EntryId} (owns : scope.entries entry) :
    InStep ties Eq (Custody.letGoWithin bound entry) (Custody.letGoWithin bound entry) := by
  induction bound generalizing entry with
  | zero => exact .pure rfl
  | succ bound inductionHypothesis =>
      refine .looking fun link tied world twin linked => ?_
      rw [(accord.bond tied).isHeld linked owns]
      split
      · exact .pure rfl
      · refine .bind (accord.change owns fun _ _ alike pinned => Lifecycle.abandon_alike alike pinned) ?_
        rintro ⟨buffers, pin⟩ ⟨buffers', pin'⟩ ⟨kept, same, pinned⟩
        obtain rfl : pin = pin' := same
        refine (accord.dropBuffers kept).andThen fun _ => ?_
        cases pin with
        | none => exact .pure rfl
        | some target =>
            refine .bind (accord.forgetTarget (pinned target rfl)) ?_
            rintro known _ ⟨rfl, knows⟩
            cases known with
            | none => exact .pure rfl
            | some next => exact inductionHypothesis (knows next rfl)

theorem letGo {entry : EntryId} (owns : scope.entries entry) :
    InStep ties Eq (Custody.letGo entry) (Custody.letGo entry) := by
  refine .looking fun link tied world twin linked => ?_
  rw [(accord.bond tied).sizes linked]
  exact accord.letGoWithin _ owns

theorem letGoOfTarget {target : TargetId} (owns : scope.targets target) :
    InStep ties Eq (Custody.letGoOfTarget target) (Custody.letGoOfTarget target) := by
  refine .bind (accord.forgetTarget owns) ?_
  rintro known _ ⟨rfl, knows⟩
  cases known with
  | none => exact .pure rfl
  | some entry => exact accord.letGo (knows entry rfl)

section Holding

variable {body : BridgeM σ Mark α} {body' : BridgeM τ Mark β} {like : α → β → Prop}

theorem holding {entry : EntryId} (owns : scope.entries entry) (ran : InStep ties like body body') :
    InStep ties like (Custody.holding entry body) (Custody.holding entry body') := by
  refine .ensuring ?_ ?_
  · refine InStep.andThen (.modify fun _ tied _ _ linked => ?_) fun _ => ran
    exact (accord.bond tied).engage linked owns
  · refine InStep.andThen (.modify fun _ tied _ _ linked => ?_) fun _ => accord.letGo owns
    exact (accord.bond tied).disengage linked owns

theorem lend (target : TargetId) :
    InStep ties Eq (Custody.lend target) (Custody.lend target) :=
  .modify fun _ tied _ _ linked => (accord.bond tied).lent linked (target :: ·)

theorem takeBack (target : TargetId) :
    InStep ties Eq (Custody.takeBack target) (Custody.takeBack target) :=
  .modify fun _ tied _ _ linked => (accord.bond tied).lent linked (·.erase target)

theorem giveBack {target : TargetId} (owns : scope.targets target) :
    InStep ties Eq (do Custody.takeBack target; Custody.letGoOfTarget target)
      (do Custody.takeBack target; Custody.letGoOfTarget target) :=
  (accord.takeBack target).andThen fun _ => accord.letGoOfTarget owns

theorem holdingTarget {target : TargetId} (owns : scope.targets target)
    (ran : InStep ties like body body') :
    InStep ties like (Custody.holdingTarget target body) (Custody.holdingTarget target body') :=
  .ensuring ((accord.lend target).andThen fun _ => ran) (accord.giveBack owns)

theorem lendingTarget {target : TargetId} (owns : scope.targets target)
    (ran : InStep ties like body body') :
    InStep ties like (Custody.lendingTarget target body) (Custody.lendingTarget target body') := by
  refine .onPanic ((accord.lend target).andThen fun _ => ?_) (accord.giveBack owns)
  exact .bind ran fun _ _ alike => (accord.takeBack target).andThen fun _ => .pure alike

end Holding

/-! ## References -/

theorem unbind {handle : Handle} (owns : scope.handles handle) :
    InStep ties (fun found other => found = other ∧ ∀ entry, found = some entry → scope.entries entry)
      (References.unbind .own handle) (References.unbind .own handle) := by
  intro link tied world twin linked
  have bond := accord.bond tied
  have found : world.own.registry.lookup? handle = twin.own.registry.lookup? handle ∧
      ∀ entry, world.own.registry.lookup? handle = some entry → scope.entries entry :=
    ⟨bond.lookup linked owns, fun _ => bond.bound linked owns⟩
  exact ⟨.given found, bond.unbound linked owns⟩

theorem unregister {handle : Handle} (owns : scope.handles handle) :
    InStep ties Eq (References.unregister .own handle) (References.unregister .own handle) := by
  refine .bind (accord.unbind owns) ?_
  rintro found _ ⟨rfl, knows⟩
  cases found with
  | none => exact .pure rfl
  | some entry => exact (accord.letGo (knows entry rfl)).andThen fun _ => .pure rfl

theorem teardown {handle : Handle} (owns : scope.handles handle) {remains remains' : Teardown}
    (alike : remains.Like scope.free scope.targets remains') :
    InStep ties Eq (References.teardown .own handle remains)
      (References.teardown .own handle remains') := by
  refine (accord.unregister owns).andThen fun found => ?_
  have rest : InStep ties Eq
      (do
        remains.pin.forM Custody.letGoOfTarget
        remains.buffers.forM TransportBridge.dropBuffer
        TransportBridge.count .own Metrics.countDisposed
        TransportBridge.note (.disposed handle remains.buffers.length) : BridgeM σ Mark Unit)
      (do
        remains'.pin.forM Custody.letGoOfTarget
        remains'.buffers.forM TransportBridge.dropBuffer
        TransportBridge.count .own Metrics.countDisposed
        TransportBridge.note (.disposed handle remains'.buffers.length) : BridgeM τ Mark Unit) := by
    rw [← alike.pin]
    refine InStep.andThen (.optionForM fun target held => ?_) fun _ => ?_
    · exact accord.letGoOfTarget (alike.pins target held)
    · refine (accord.dropBuffers alike.buffers).andThen fun _ => (accord.count _).andThen fun _ => ?_
      rcases alike.buffers with isFree | same
      · exact accord.note (.disposed isFree handle _ _)
      · rw [same]
        exact accord.note (.same _)
  cases found with
  | true => exact rest
  | false => exact ((accord.note (.same _)).andThen fun _ => accord.count _).andThen fun _ => rest

theorem finish (owns : scope.Owns peer) {remains remains' : Option Teardown}
    (alike : Option.Rel (Teardown.Like scope.free scope.targets) remains remains') :
    InStep ties (Answers Eq) (References.finish .own peer remains).run
      (References.finish .own peer remains').run := by
  cases alike with
  | none => exact .callPure rfl
  | some alike => exact .effect (accord.teardown owns.handle alike)

theorem retain (owns : scope.Owns peer) :
    InStep ties (Answers Eq) (References.retain .own peer).run (References.retain .own peer).run :=
  accord.checked owns fun _ _ alike pinned => Lifecycle.retain_alike alike pinned

theorem release (owns : scope.Owns peer) :
    InStep ties (Answers Eq) (References.release .own peer).run
      (References.release .own peer).run := by
  refine .callBind ?_ fun _ _ alike => accord.finish owns alike
  exact accord.checked owns fun _ _ alike pinned => Lifecycle.release_alike alike pinned

theorem releaseNative (owns : scope.Owns peer) :
    InStep ties (Answers Eq) (References.releaseNative .own peer).run
      (References.releaseNative .own peer).run := by
  refine .callBind ?_ fun _ _ alike => accord.finish owns alike
  exact accord.checked owns fun _ _ alike pinned => Lifecycle.releaseNative_alike alike pinned

/-! ## Registrations -/

theorem dropUnknown (handle : Handle) (event : EventKind) {like : α → β → Prop} :
    InStep ties (Answers like) (Registration.dropUnknown handle event : Call σ Mark α).run
      (Registration.dropUnknown handle event : Call τ Mark β).run := by
  refine .effectThen ?_ fun _ => .reject _
  exact (accord.count _).andThen fun _ => accord.note (.same _)

/-- The connections that linked worlds have of a handle are the same. -/
theorem peer? {link : Link σ τ} (tied : ties link) {world : World σ Mark} {twin : World τ Mark}
    (linked : link world twin) {handle : Handle} (owns : scope.handles handle) :
    world.peer? handle = twin.peer? handle ∧
      ∀ peer, world.peer? handle = some peer → scope.Owns peer := by
  have bond := accord.bond tied
  unfold World.peer?
  rw [← bond.lookup linked owns]
  refine ⟨rfl, fun peer found => ?_⟩
  obtain ⟨entry, bound, rfl⟩ := Option.map_eq_some_iff.mp found
  exact ⟨owns, bond.bound linked owns bound⟩

theorem lookup {handle : Handle} (owns : scope.handles handle) (event : EventKind) :
    InStep ties (Answers fun peer other => peer = other ∧ scope.Owns peer)
      (Registration.lookup handle event).run (Registration.lookup handle event).run := by
  refine .callLooking fun link tied world twin linked => ?_
  obtain ⟨same, mine⟩ := accord.peer? tied linked owns
  rw [← same]
  cases found : world.peer? handle with
  | none => exact accord.dropUnknown handle event
  | some peer => exact .callPure ⟨rfl, mine peer found⟩

theorem register (enrols : scope.enrols) (handle : Handle) (target : TargetId) :
    InStep ties (Answers Eq) (Registration.register handle target).run
      (Registration.register handle target).run := by
  have ownsTarget := (scope.all enrols).2.2 target
  refine .effectThen (fun _ tied _ _ linked => (accord.bond tied).bind linked enrols handle target)
    fun bound => ?_
  cases bound with
  | none => exact .effectThen (accord.letGoOfTarget ownsTarget) fun _ => accord.reject _
  | some peer =>
      refine .callThen (accord.checked (Scope.owns_of_enrols enrols peer) ?_) fun _ => ?_
      · exact fun _ _ alike _ => Lifecycle.adoptPin_alike alike ownsTarget
      · refine .effectThen ?_ fun _ => .callPure rfl
        exact (accord.count _).andThen fun _ => accord.note (.same _)

end Accord

/-! ## Links of a run with itself -/

/-- Only what is the same is alike where the owner of the buffers is not free. -/
theorem Scope.same_of_permits {scope : Scope} (strict : ¬ scope.free) {call call' : BridgeCall}
    (permits : scope.Permits call call') : call = call' := by
  cases permits with
  | native _ alike =>
      cases alike with
      | same event => rfl
      | openRequest _ alike => rw [alike.kept.resolve_left strict]
      | received alike => rw [alike.kept.resolve_left strict]
  | _ => rfl

theorem Scope.same_of_tells {scope : Scope} (strict : ¬ scope.free) {moment moment' : Moment Mark}
    (tells : scope.Tells moment moment') : moment = moment' := by
  cases tells with
  | noted alike =>
      cases alike with
      | same notice => rfl
      | disposed isFree => exact absurd isFree strict
  | called permits => rw [same_of_permits strict permits]
  | replied permits => rw [same_of_permits strict permits]
  | _ => rfl

/-- One run taken twice, as long as its worlds are within. -/
def Link.within (within : World σ Mark → Prop) : Link σ σ :=
  fun world twin => world = twin ∧ within world

/-- Worlds that no primitive step in the scope leaves. -/
structure Enclave [Custodian σ] (scope : Scope) (within : World σ Mark → Prop) : Prop where
  strict : ¬ scope.free
  factoryless {world} (inside : within world) : world.factory = none ∨ scope.enrols
  bound {world} (inside : within world) {handle} (owns : scope.handles handle) {entry}
      (found : world.own.registry.lookup? handle = some entry) : scope.entries entry
  names {world} (inside : within world) {entry} (owns : scope.entries entry) {registration}
      (found : world.entry? entry = some registration) : scope.handles registration.handle
  pinned {world} (inside : within world) {entry} (owns : scope.entries entry) :
      (world.life entry).PinsTo scope.targets
  setLife {world} (inside : within world) {entry} (owns : scope.entries entry) {life : Lifecycle}
      (pinned : life.PinsTo scope.targets) : within (world.setLife entry life)
  push {world} (inside : within world) {moment} (tells : scope.Tells moment moment) :
      within (world.push moment)
  count {world} (inside : within world) (change : Metrics → Metrics) :
      within (world.count .own change)
  engage {world} (inside : within world) {entry} (owns : scope.entries entry) :
      within { world with engaged := entry :: world.engaged }
  disengage {world} (inside : within world) {entry} (owns : scope.entries entry) :
      within { world with engaged := world.engaged.erase entry }
  lent {world} (inside : within world) (change : List TargetId → List TargetId) :
      within { world with lent := change world.lent }
  unbound {world} (inside : within world) {handle} (owns : scope.handles handle) :
      within (world.unbound handle)
  forget {world} (inside : within world) {target} (owns : scope.targets target) :
      ∃ known after, Custody.forgetTarget target world = (.ok known, after) ∧ within after ∧
        ∀ entry, known = some entry → scope.entries entry
  bind {world} (inside : within world) (enrols : scope.enrols) (handle : Handle)
      (target : TargetId) :
      ∃ bound after, Registration.bind? handle target world = (.ok bound, after) ∧ within after

theorem Enclave.bond [Custodian σ] {scope : Scope} {within : World σ Mark → Prop}
    (enclave : Enclave scope within) : Bond scope (Link.within within) where
  config := fun linked => linked.1 ▸ rfl
  factory := fun linked => linked.1 ▸ rfl
  factoryless := fun linked => enclave.factoryless linked.2
  sizes := fun linked => linked.1 ▸ rfl
  lookup := fun linked _ _ => linked.1 ▸ rfl
  bound := fun linked _ owns _ found => enclave.bound linked.2 owns found
  named := fun linked _ _ => linked.1 ▸ rfl
  names := fun linked _ owns _ found => enclave.names linked.2 owns found
  life := fun linked _ _ => linked.1 ▸ .refl _
  pinned := fun linked _ owns => enclave.pinned linked.2 owns
  isHeld := fun linked _ _ => linked.1 ▸ rfl
  setLife := by
    rintro world _ ⟨rfl, inside⟩ entry owns life life' alike pinned
    obtain rfl : life = life' := alike.resolve_right fun free => enclave.strict free.1
    exact ⟨rfl, enclave.setLife inside owns pinned⟩
  push := by
    rintro world _ ⟨rfl, inside⟩ moment moment' tells
    obtain rfl := Scope.same_of_tells enclave.strict tells
    exact ⟨rfl, enclave.push inside tells⟩
  hookRan := fun _ isFree => absurd isFree enclave.strict
  count := fun linked change => ⟨linked.1 ▸ rfl, enclave.count linked.2 change⟩
  engage := fun linked _ owns => ⟨linked.1 ▸ rfl, enclave.engage linked.2 owns⟩
  disengage := fun linked _ owns => ⟨linked.1 ▸ rfl, enclave.disengage linked.2 owns⟩
  lent := fun linked change => ⟨linked.1 ▸ rfl, enclave.lent linked.2 change⟩
  unbound := fun linked _ owns => ⟨linked.1 ▸ rfl, enclave.unbound linked.2 owns⟩
  forget := by
    rintro world _ ⟨rfl, inside⟩ target owns
    obtain ⟨known, after, ran, inside, knows⟩ := enclave.forget inside owns
    rw [ran]
    exact ⟨.given ⟨rfl, knows⟩, rfl, inside⟩
  bind := by
    rintro world _ ⟨rfl, inside⟩ enrols handle target
    obtain ⟨bound, after, ran, inside⟩ := enclave.bind inside enrols handle target
    rw [ran]
    exact ⟨.given rfl, rfl, inside⟩

end TransportBridge
