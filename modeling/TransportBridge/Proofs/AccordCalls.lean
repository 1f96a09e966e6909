import TransportBridge.Proofs.Accord

/-!
Contract: calls of the bridge in accord.

Hosts go in step if they do wherever the bridge calls them within the scope.
Every call that the bridge permits then keeps two runs in accord in step, and by
induction on the depth of nesting so does what user code makes of its calls.

Owns: that calls over hosts in step are in step, runs over any hosts whose own
calls are made one level deeper, and pairs of user code in step.

Does not own: any bond in particular.
-/

namespace TransportBridge

variable {σ τ α β : Type}

/-! ## Calls over hosts in step -/

/-- Hosts that go in step where the bridge calls them within the scope. -/
structure Host.KeepsStep (scope : Scope) (ties : Ties σ τ) (host : Host σ Mark)
    (other : Host τ Mark) : Prop where
  callback {peer : Peer} (owns : scope.Owns peer) {target : TargetId}
      (ownsTarget : scope.targets target) (event : SocketEvent) :
      InStep ties Eq (host.callback peer target event) (other.callback peer target event)
  engine {handle : Handle} (owns : scope.handles handle) (call : EngineCall) :
      InStep ties Eq (host.engine handle call) (other.engine handle call)
  createHandle (enrols : scope.enrols) (address : Address) (framing : Framing) :
      InStep ties Eq (host.createHandle address framing) (other.createHandle address framing)
  createTarget (enrols : scope.enrols) (factory : FactoryId) (handle : Handle)
      (address : Address) (options : Bytes) :
      InStep ties Eq (host.createTarget factory handle address options)
        (other.createTarget factory handle address options)

namespace Accord

variable [Custodian σ] [Custodian τ] {scope : Scope} {ties : Ties σ τ} {peer : Peer}
  {host : Host σ Mark} {other : Host τ Mark} (accord : Accord scope ties)
  (hosts : host.KeepsStep scope ties other)
include accord hosts

theorem forwardFor (owns : scope.Owns peer) (call : EngineCall) :
    InStep ties Eq (Socket.forwardFor host peer call) (Socket.forwardFor other peer call) :=
  (accord.witness (.forwarded owns call)).andThen fun _ => hosts.engine owns.handle call

theorem openOutbound (enrols : scope.enrols) (address : Address) (framing : Option Framing)
    (target : TargetId) :
    InStep ties (Answers Eq) (Registration.openOutbound host address framing target).run
      (Registration.openOutbound other address framing target).run := by
  have ownsTarget := (scope.all enrols).2.2 target
  refine .callLooking fun link tied world twin linked => ?_
  rw [(accord.bond tied).config linked]
  refine .effectThen (accord.lendingTarget ownsTarget ?_) fun answer => ?_
  · exact (accord.witness (.engineAsked enrols _ _)).andThen fun _ => hosts.createHandle enrols _ _
  · cases answer with
    | error error =>
        refine .effectThen ?_ fun _ => .reject _
        exact (accord.note (.same _)).andThen fun _ => accord.letGoOfTarget ownsTarget
    | ok handle =>
        refine .effectThen (accord.note (.same _)) fun _ => ?_
        refine .effectThen ((accord.register enrols handle target).weaken fun _ _ => Answers.eq)
          fun outcome => ?_
        cases outcome with
        | ok peer => exact .callPure rfl
        | error error =>
            refine .effectThen ?_ fun _ => .reject _
            refine (accord.note (.same _)).andThen fun _ => ?_
            exact (accord.witness (.returned enrols _ _)).andThen fun _ =>
              hosts.engine ((scope.all enrols).1 handle) _

theorem adoptFromFactory (handle : Handle) (address : Address) (options : Bytes) :
    InStep ties (Answers fun peer other => peer = other ∧ scope.enrols)
      (Registration.adoptFromFactory host handle address options).run
      (Registration.adoptFromFactory other handle address options).run := by
  refine .callLooking fun link tied world twin linked => ?_
  have bond := accord.bond tied
  rw [← bond.factory linked]
  cases installed : world.factory with
  | none => exact accord.dropUnknown handle .openRequest
  | some factory =>
      rcases bond.factoryless linked with none | enrols
      · rw [none] at installed
        cases installed
      · refine .effectThen (accord.witness (.factoryAsked enrols _ _ _ _)) fun _ => ?_
        refine .effectThen (hosts.createTarget enrols _ _ _ _) fun answer => ?_
        cases answer with
        | ok target =>
            exact (accord.register enrols handle target).weaken fun _ _ answers =>
              answers.mono fun _ _ same => ⟨same, enrols⟩
        | error error =>
            refine .effectThen ?_ fun _ => .reject _
            exact (accord.count _).andThen fun _ => accord.note (.same _)

section Deliveries

variable (owns : scope.Owns peer) {target : TargetId} (ownsTarget : scope.targets target)
include owns ownsTarget

theorem deliver (event : SocketEvent) :
    InStep ties (Answers Eq) (Delivery.deliver host peer target event).run
      (Delivery.deliver other peer target event).run := by
  refine .callLooking fun link tied world twin linked => ?_
  rw [(accord.bond tied).config linked]
  refine .effectThen (accord.note (.same _)) fun _ => ?_
  have context := accord.context owns ownsTarget event (hosts.callback owns ownsTarget event)
  refine .effectThen (accord.holdingTarget ownsTarget context) fun answer => ?_
  cases answer with
  | ok nothing => exact .effect (accord.count _)
  | error error =>
      refine .effectThen ?_ fun _ => .reject _
      exact (accord.count _).andThen fun _ => accord.note (.same _)

theorem deliverOr (event : SocketEvent) {undo : BridgeM σ Mark Unit} {undo' : BridgeM τ Mark Unit}
    (undone : InStep ties Eq undo undo') :
    InStep ties (Answers Eq) (Delivery.deliverOr host peer target event undo).run
      (Delivery.deliverOr other peer target event undo').run := by
  refine .effectThen ((accord.deliver hosts owns ownsTarget event).weaken fun _ _ => Answers.eq)
    fun answer => ?_
  cases answer with
  | ok nothing => exact .callPure rfl
  | error error => exact .effectThen undone fun _ => .reject _

end Deliveries

omit accord hosts [Custodian σ] [Custodian τ] in
theorem thenDropping {buffer buffer' : NativeBuffer Hook} {body : Call σ Mark α}
    {body' : Call τ Mark β} {like : α → β → Prop}
    (dropped : InStep ties Eq (TransportBridge.dropBuffer buffer)
      (TransportBridge.dropBuffer buffer'))
    (ran : InStep ties (Answers like) body.run body'.run) :
    InStep ties (Answers like) (Delivery.thenDropping buffer body).run
      (Delivery.thenDropping buffer' body').run :=
  .ensuring ran dropped

theorem onWriteCompleted {handle : Handle} (owns : scope.handles handle) (byteCount : Nat) :
    InStep ties (Answers Eq) (Delivery.onWriteCompleted host handle byteCount).run
      (Delivery.onWriteCompleted other handle byteCount).run := by
  refine .callBind (accord.lookup owns .writeCompleted) ?_
  rintro peer _ ⟨rfl, owns⟩
  refine accord.holding owns.entry ?_
  refine .callBind (accord.checked owns fun _ _ alike pinned =>
    Lifecycle.acceptWriteCompleted_alike alike pinned byteCount) ?_
  rintro target _ ⟨rfl, ownsTarget⟩
  exact accord.deliver hosts owns ownsTarget _

omit hosts in
theorem noteIfAny (notice : Option Notice) :
    InStep ties Eq (Delivery.noteIfAny notice) (Delivery.noteIfAny notice) :=
  .optionForM fun _ _ => accord.note (.same _)

theorem onCloseRequest {handle : Handle} (owns : scope.handles handle) (status : Int)
    (message : Bytes) :
    InStep ties (Answers Eq) (Delivery.onCloseRequest host handle status message).run
      (Delivery.onCloseRequest other handle status message).run := by
  refine .callBind (accord.lookup owns .closeRequest) ?_
  rintro peer _ ⟨rfl, owns⟩
  refine accord.holding owns.entry ?_
  refine .callBind (accord.checked owns fun _ _ alike pinned =>
    Lifecycle.acceptCloseRequest_alike alike pinned) ?_
  rintro ⟨target, before⟩ _ ⟨rfl, ownsTarget⟩
  refine .effectThen (accord.noteIfAny _) fun _ => ?_
  refine accord.deliverOr hosts owns ownsTarget _ ?_
  exact accord.change owns.entry fun _ _ alike pinned =>
    Lifecycle.abortCloseRequest_alike alike pinned before

omit hosts in
theorem enterReceived (owns : scope.Owns peer) (byteCount : Nat)
    {retained retained' : Option (NativeBuffer Hook)} (kept : scope.free ∨ retained = retained') :
    InStep ties (Answers fun target other => target = other ∧ scope.targets target)
      (Delivery.enterReceived peer byteCount retained).run
      (Delivery.enterReceived peer byteCount retained').run := by
  refine .effectBind (accord.attempt owns.entry fun _ _ alike pinned =>
    Lifecycle.acceptReceived_alike alike pinned byteCount kept) fun answer answer' answers => ?_
  cases answers with
  | given alike => exact .callPure alike
  | refused refusal => exact .effectThen (accord.dropIfAny kept) fun _ => accord.reject _

omit hosts in
/-- A buffer is taken over, or dropped when it has been before. -/
theorem taking {data data' : NativeBuffer Hook} (alike : data.Like scope.free data')
    {next : Bytes → NativeBuffer Hook → Call σ Mark Unit}
    {next' : Bytes → NativeBuffer Hook → Call τ Mark Unit}
    (taken : ∀ bytes {spent spent'}, scope.free ∨ spent = spent' →
      InStep ties (Answers Eq) (next bytes spent).run (next' bytes spent').run) :
    InStep ties (Answers Eq)
      (match data.transfer with
        | .error violation =>
          Delivery.thenDropping data (References.reject .own (.invariantViolation none violation))
        | .ok (bytes, spent) => next bytes spent : Call σ Mark Unit).run
      (match data'.transfer with
        | .error violation =>
          Delivery.thenDropping data' (References.reject .own (.invariantViolation none violation))
        | .ok (bytes, spent) => next' bytes spent : Call τ Mark Unit).run := by
  have both := alike.transfer
  generalize data.transfer = transfer, data'.transfer = transfer' at both
  cases both with
  | refused violation => exact thenDropping (accord.dropKept alike.kept) (accord.reject _)
  | @given outcome outcome' same =>
      obtain ⟨bytes, spent⟩ := outcome
      obtain ⟨bytes', spent'⟩ := outcome'
      obtain ⟨rfl, kept⟩ : bytes = bytes' ∧ (scope.free ∨ spent = spent') := same
      exact taken bytes kept

theorem onReceived {handle : Handle} (owns : scope.handles handle) {data data' : NativeBuffer Hook}
    (alike : data.Like scope.free data') :
    InStep ties (Answers Eq) (Delivery.onReceived host handle data).run
      (Delivery.onReceived other handle data').run := by
  refine .effectBind (accord.lookup owns .received) fun answer answer' answers => ?_
  cases answers with
  | refused error => exact thenDropping (accord.dropKept alike.kept) (.reject _)
  | @given peer peer' found =>
      obtain ⟨rfl, owns⟩ := found
      refine accord.holding owns.entry (accord.taking alike fun bytes {spent spent'} kept => ?_)
      rw [← alike.size]
      refine .callBind (accord.enterReceived owns data.size ?_) ?_
      · exact kept.imp_right fun same => by rw [same]
      · rintro target _ ⟨rfl, ownsTarget⟩
        refine accord.deliverOr hosts owns ownsTarget _ ?_
        refine .bind (accord.change owns.entry fun _ _ alike pinned =>
          Lifecycle.abortReceived_alike alike pinned data.size) fun buffer buffer' kept => ?_
        exact accord.dropIfAny kept

/-- The open request of a connection that is there. -/
private theorem opening (owns : scope.Owns peer) (handle : Handle) (address : Address)
    (options : Bytes) :
    InStep ties (Answers Eq)
      (Call.holding peer.entry (Delivery.opening host handle address options peer)).run
      (Call.holding peer.entry (Delivery.opening other handle address options peer)).run := by
  refine accord.holding owns.entry ?_
  refine .callBind (accord.checked owns fun _ _ alike pinned =>
    Lifecycle.beginOpen_alike alike pinned) ?_
  rintro target _ ⟨rfl, ownsTarget⟩
  refine .callThen (accord.deliverOr hosts owns ownsTarget _ ?_) fun _ => ?_
  · exact accord.change owns.entry fun _ _ alike pinned => Lifecycle.abortOpen_alike alike pinned
  · refine .effectThen (accord.change owns.entry fun _ _ alike pinned =>
      Lifecycle.finishOpen_alike alike pinned) fun isOpen => ?_
    cases isOpen with
    | true => exact .effect (accord.note (.same _))
    | false => exact .callPure rfl

theorem onOpen {handle : Handle} (owns : scope.handles handle) (address : Address)
    {options options' : NativeBuffer Hook} (alike : options.Like scope.free options') :
    InStep ties (Answers Eq) (Delivery.onOpen host handle address options).run
      (Delivery.onOpen other handle address options').run := by
  refine accord.taking alike fun bytes {spent spent'} kept => ?_
  refine thenDropping (accord.dropKept kept) (.callLooking fun link tied world twin linked => ?_)
  obtain ⟨same, mine⟩ := accord.peer? tied linked owns
  simp only
  rw [← same]
  cases found : world.peer? handle with
  | some peer => exact accord.opening hosts (mine peer found) handle address bytes
  | none =>
      refine .callBind (accord.adoptFromFactory hosts handle address bytes) ?_
      rintro peer _ ⟨rfl, enrols⟩
      exact accord.opening hosts (Scope.owns_of_enrols enrols peer) handle address bytes

theorem onClosed {handle : Handle} (owns : scope.handles handle) (domain code : Int)
    (message : Bytes) :
    InStep ties (Answers Eq) (Delivery.onClosed host handle domain code message).run
      (Delivery.onClosed other handle domain code message).run := by
  refine .callBind (accord.lookup owns .closed) ?_
  rintro peer _ ⟨rfl, owns⟩
  refine accord.holding owns.entry ?_
  refine .effectThen (accord.noteIfAny _) fun _ => ?_
  refine .callBind (accord.checked owns fun _ _ alike pinned =>
    Lifecycle.beginClose_alike alike pinned) ?_
  rintro ⟨target, before⟩ _ ⟨rfl, ownsTarget⟩
  have released : InStep ties Eq (Delivery.releaseAfterPanic peer : BridgeM σ Mark Unit)
      (Delivery.releaseAfterPanic peer : BridgeM τ Mark Unit) :=
    (accord.note (.same _)).andThen fun _ => .bind (accord.releaseNative owns) fun _ _ _ => .pure rfl
  refine .effectThen ((InStep.onPanic (accord.deliver hosts owns ownsTarget _) released).weaken
    fun _ _ => Answers.eq) fun answer => ?_
  cases answer with
  | ok nothing => exact accord.releaseNative owns
  | error error =>
      refine .effectThen ?_ fun _ => .reject _
      exact accord.change owns.entry fun _ _ alike pinned =>
        Lifecycle.abortClose_alike alike pinned before

theorem dispatch {handle : Handle} (owns : scope.handles handle) {event event' : NativeEvent}
    (alike : event.Like scope.free event') :
    InStep ties (Answers Eq) (Delivery.dispatch host handle event).run
      (Delivery.dispatch other handle event').run := by
  cases alike with
  | openRequest address alike => exact accord.onOpen hosts owns address alike
  | received alike => exact accord.onReceived hosts owns alike
  | same event =>
      cases event with
      | openRequest address options => exact accord.onOpen hosts owns address (.inl rfl)
      | writeCompleted byteCount => exact accord.onWriteCompleted hosts owns byteCount
      | received data => exact accord.onReceived hosts owns (.inl rfl)
      | closeRequest status message => exact accord.onCloseRequest hosts owns status message
      | closed domain code message => exact accord.onClosed hosts owns domain code message

/-! ### Calls of the managed side -/

theorem socketClosed (owns : scope.Owns peer) (error : ErrorRecord) :
    InStep ties Eq (Socket.closed host peer error) (Socket.closed other peer error) := by
  refine .andThen (accord.change owns.entry fun _ _ alike pinned =>
    Lifecycle.markManagedClosed_alike alike pinned) fun first => ?_
  cases first with
  | true => exact accord.forwardFor hosts owns _
  | false => exact accord.note (.same _)

theorem socketOpened (owns : scope.Owns peer) :
    InStep ties (Answers Eq) (Socket.opened host peer).run (Socket.opened other peer).run := by
  refine .callThen (accord.checked owns fun _ _ alike pinned =>
    Lifecycle.markReady_alike alike pinned) fun first => ?_
  cases first with
  | true => exact .effect (accord.forwardFor hosts owns _)
  | false => exact .callPure rfl

theorem write (owns : scope.Owns peer) (data : Bytes) :
    InStep ties (Answers Eq) (Socket.write host peer data).run
      (Socket.write other peer data).run := by
  refine .callLooking fun link tied world twin linked => ?_
  rw [(accord.bond tied).config linked]
  refine .callThen (accord.checked owns fun _ _ alike pinned =>
    Lifecycle.recordWrite_alike alike pinned _ _) fun _ => ?_
  exact .effect (accord.forwardFor hosts owns _)

theorem completedReceive (owns : scope.Owns peer) (byteCount : Nat) :
    InStep ties (Answers Eq) (Socket.completedReceive host peer byteCount).run
      (Socket.completedReceive other peer byteCount).run := by
  refine .callBind (accord.checked owns fun _ _ alike pinned =>
    Lifecycle.acknowledgeReceive_alike alike pinned byteCount) fun freed freed' kept => ?_
  refine .effectThen (accord.dropBuffers kept) fun _ => ?_
  exact .effect (accord.forwardFor hosts owns _)

theorem invoke (owns : scope.Owns peer) (call : SocketCall) :
    InStep ties (Answers Eq) (Socket.invoke host peer call).run
      (Socket.invoke other peer call).run := by
  cases call with
  | opened => exact .callThen (accord.socketOpened hosts owns) fun _ => .callPure rfl
  | httpResponse status headers =>
      refine .callThen (.callThen (accord.checked owns fun _ _ alike pinned =>
        Lifecycle.checkHandshake_alike alike pinned) fun _ => ?_) fun _ => .callPure rfl
      exact .effect (accord.forwardFor hosts owns _)
  | write data => exact .callThen (accord.write hosts owns data) fun _ => .callPure rfl
  | completedReceive byteCount =>
      exact .callThen (accord.completedReceive hosts owns byteCount) fun _ => .callPure rfl
  | closeRequest status message =>
      refine .callThen (.callThen (accord.checked owns fun _ _ alike pinned =>
        Lifecycle.requestClose_alike alike pinned) fun _ => ?_) fun _ => .callPure rfl
      exact .effect (accord.forwardFor hosts owns _)
  | closed error => exact .effectThen (accord.socketClosed hosts owns error) fun _ => .callPure rfl
  | retain => exact .callThen (accord.retain owns) fun _ => .callPure rfl
  | release => exact .callThen (accord.release owns) fun _ => .callPure rfl

omit accord hosts [Custodian σ] [Custodian τ] in
theorem replyTo {call : Call σ Mark α} {call' : Call τ Mark α}
    (ran : InStep ties (Answers Eq) call.run call'.run) (answer : α → Reply) :
    InStep ties Eq (replyTo call answer) (replyTo call' answer) :=
  .bind ran fun _ _ answers => answers.eq ▸ .pure rfl

/-- Calls that the runs may make for each other keep them in step. -/
theorem perform {call call' : BridgeCall} (permits : scope.Permits call call') :
    InStep ties Eq (call.perform host) (call'.perform other) := by
  cases permits with
  | openOutbound enrols address framing target =>
      exact replyTo (accord.openOutbound hosts enrols address framing target) _
  | adoptInbound enrols handle target => exact replyTo (accord.register enrols handle target) _
  | native owns alike => exact replyTo (accord.dispatch hosts owns alike) _
  | socket owns call =>
      refine .looking fun link tied world twin linked => ?_
      have bond := accord.bond tied
      have named := bond.named linked owns
      cases found : world.entry? _ with
      | none =>
          rw [found] at named
          rw [Option.map_eq_none_iff.mp named.symm]
          exact .pure rfl
      | some registration =>
          rw [found] at named
          obtain ⟨registration', found', same⟩ := Option.map_eq_some_iff.mp named.symm
          rw [found']
          simp only
          rw [same]
          exact accord.holding owns
            (replyTo (accord.invoke hosts ⟨bond.names linked owns found, owns⟩ call) _)

end Accord

/-! ## Runs in step -/

section Runs

variable [Custodian σ] [Custodian τ] {scope : Scope} {ties : Ties σ τ}

/-- Makes a call over hosts that make their own calls one level deeper. -/
def BridgeCall.makeOver (hosts : (BridgeCall → BridgeM σ Mark Reply) → Host σ Mark) :
    Nat → BridgeCall → BridgeM σ Mark Reply
  | 0, _ => return .panicked .exhausted
  | depth + 1, call => do
    witness (.marked (.called call))
    let outcome ← catchPanic (call.perform (hosts (makeOver hosts depth)))
    witness (.marked (.replied call (.ofOutcome outcome)))
    return .ofOutcome outcome

/-- Runs of user code are such runs. -/
theorem BridgeCall.makeOver_host (behaviour : Behaviour σ) (depth : Nat) :
    BridgeCall.makeOver behaviour.host depth = BridgeCall.make behaviour depth := by
  induction depth with
  | zero => rfl
  | succ depth inductionHypothesis =>
      funext call
      unfold makeOver make
      rw [inductionHypothesis]

/-- Permitted calls are made in step. -/
def MakesStep (scope : Scope) (ties : Ties σ τ) (make : BridgeCall → BridgeM σ Mark Reply)
    (make' : BridgeCall → BridgeM τ Mark Reply) : Prop :=
  ∀ {call call' : BridgeCall}, scope.Permits call call' → InStep ties Eq (make call) (make' call')

/-- What is made of calls is in step at any depth of nesting, as the hosts are in
step if the calls are that they make. -/
theorem Accord.makeOver (accord : Accord scope ties)
    {hosts : (BridgeCall → BridgeM σ Mark Reply) → Host σ Mark}
    {hosts' : (BridgeCall → BridgeM τ Mark Reply) → Host τ Mark}
    (keep : ∀ {make make'}, MakesStep scope ties make make' →
      (hosts make).KeepsStep scope ties (hosts' make'))
    (depth : Nat) :
    MakesStep scope ties (BridgeCall.makeOver hosts depth) (BridgeCall.makeOver hosts' depth) := by
  induction depth with
  | zero => exact fun _ => .pure rfl
  | succ depth inductionHypothesis =>
      intro call call' permits
      refine (accord.witness (.called permits)).andThen fun _ => ?_
      have performed := InStep.catchPanic (accord.perform (keep inductionHypothesis) permits)
      refine (performed.weaken fun _ _ => Answers.eq).andThen fun outcome => ?_
      exact (accord.witness (.replied permits _)).andThen fun _ => .pure rfl

/-! ### User code -/

/-- Two pieces of user code that go in step: what they see of linked worlds makes
no difference, and what they do keeps the worlds linked. -/
inductive UserCode.KeepsStep (scope : Scope) (ties : Ties σ τ) :
    UserCode σ α → UserCode τ α → Prop where
  | finish (result : α) : KeepsStep scope ties (.finish result) (.finish result)
  | unwind (panic : Panic) : KeepsStep scope ties (.unwind panic) (.unwind panic)
  | look {next : World σ Mark → UserCode σ α} {next' : World τ Mark → UserCode τ α}
      (rest : ∀ link, ties link → ∀ world twin, link world twin →
        KeepsStep scope ties (next world) (next' twin)) :
      KeepsStep scope ties (.look next) (.look next')
  | rearrange {change : Surroundings σ → Surroundings σ} {change' : Surroundings τ → Surroundings τ}
      (kept : ∀ link, ties link → ∀ world twin, link world twin →
        link (world.amid (change world.surroundings)) (twin.amid (change' twin.surroundings)))
      {next : UserCode σ α} {next' : UserCode τ α} (rest : KeepsStep scope ties next next') :
      KeepsStep scope ties (.rearrange change next) (.rearrange change' next')
  | call {made made' : BridgeCall} (permits : scope.Permits made made')
      {next : Reply → UserCode σ α} {next' : Reply → UserCode τ α}
      (rest : ∀ reply, KeepsStep scope ties (next reply) (next' reply)) :
      KeepsStep scope ties (.call made next) (.call made' next')

omit [Custodian σ] [Custodian τ] in
theorem UserCode.KeepsStep.run {code : UserCode σ α} {code' : UserCode τ α}
    (keeps : code.KeepsStep scope ties code') {make : BridgeCall → BridgeM σ Mark Reply}
    {make' : BridgeCall → BridgeM τ Mark Reply} (makes : MakesStep scope ties make make') :
    InStep ties Eq (code.run make) (code'.run make') := by
  induction keeps with
  | finish result => exact .pure rfl
  | unwind panic => exact .unwind panic
  | look _ inductionHypothesis => exact .looking inductionHypothesis
  | rearrange kept _ inductionHypothesis =>
      exact (InStep.modify kept).andThen fun _ => inductionHypothesis
  | call permits _ inductionHypothesis => exact (makes permits).andThen inductionHypothesis

/-- Two behaviours whose code goes in step within the scope. -/
structure Behaviour.KeepsStep (scope : Scope) (ties : Ties σ τ) (behaviour : Behaviour σ)
    (other : Behaviour τ) : Prop where
  callback {peer : Peer} (owns : scope.Owns peer) {target : TargetId}
      (ownsTarget : scope.targets target) (event : SocketEvent) :
      (behaviour.callback peer target event).KeepsStep scope ties (other.callback peer target event)
  engine {handle : Handle} (owns : scope.handles handle) (call : EngineCall) :
      (behaviour.engine handle call).KeepsStep scope ties (other.engine handle call)
  createHandle (enrols : scope.enrols) (address : Address) (framing : Framing) :
      (behaviour.createHandle address framing).KeepsStep scope ties
        (other.createHandle address framing)
  createTarget (enrols : scope.enrols) (factory : FactoryId) (handle : Handle)
      (address : Address) (options : Bytes) :
      (behaviour.createTarget factory handle address options).KeepsStep scope ties
        (other.createTarget factory handle address options)

omit [Custodian σ] [Custodian τ] in
theorem Behaviour.KeepsStep.host {behaviour : Behaviour σ} {other : Behaviour τ}
    (keeps : behaviour.KeepsStep scope ties other) {make : BridgeCall → BridgeM σ Mark Reply}
    {make' : BridgeCall → BridgeM τ Mark Reply} (makes : MakesStep scope ties make make') :
    (behaviour.host make).KeepsStep scope ties (other.host make') where
  callback owns _ ownsTarget event := (keeps.callback owns ownsTarget event).run makes
  engine owns call := (keeps.engine owns call).run makes
  createHandle enrols address framing := (keeps.createHandle enrols address framing).run makes
  createTarget enrols factory handle address options :=
    (keeps.createTarget enrols factory handle address options).run makes

/-- Permitted calls go in step over behaviours in step. -/
theorem Accord.make (accord : Accord scope ties) {behaviour : Behaviour σ} {other : Behaviour τ}
    (keeps : behaviour.KeepsStep scope ties other) (depth : Nat) :
    MakesStep scope ties (BridgeCall.make behaviour depth) (BridgeCall.make other depth) := by
  rw [← BridgeCall.makeOver_host, ← BridgeCall.makeOver_host]
  exact accord.makeOver (fun makes => keeps.host makes) depth

end Runs

end TransportBridge
