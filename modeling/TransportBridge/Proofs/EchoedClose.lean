import TransportBridge.Proofs.Collisions
import TransportBridge.Proofs.Decoding
import TransportBridge.Proofs.Onsets
import TransportBridge.Proofs.StalePeers

/-!
Contract: a close of the managed side, through an engine that echoes it.

The engine is told of the close once. It reports the same end back before it
returns, so that the closed callback runs inside the close that has caused it, with
the error that the managed side has given. An error that the two sides can both
write down, its domain by a number and its message as text, comes back as it went.

Owns: how a closed event with a readable message ends, and what comes of a close
that is echoed.

Does not own: what the callback does, beyond that it returns.
-/

namespace TransportBridge

variable {σ : Type} {world told : World σ Mark} {peer : Peer}

/-! ## The end of the native side -/

/-- The end of a closed callback: the native reference is given up, and with it
the registration if nobody else holds it. -/
def World.settled (world : World σ Mark) (peer : Peer) : World σ Mark :=
  world.concluded peer { world.life peer.entry with nativeRef := false }.tryTeardown

/-- Plain changes go along with a conclusion. -/
theorem World.Plain.concluded {after : World σ Mark} (plain : world.Plain after) (peer : Peer)
    (outcome : Option Teardown × Lifecycle) :
    (world.concluded peer outcome).Plain (after.concluded peer outcome) := by
  obtain ⟨remains, next⟩ := outcome
  have changed := plain.setLife peer.entry next
  cases remains with
  | none => exact changed
  | some _ =>
      exact {
        config := changed.config
        entries := changed.entries
        registry := congrArg (·.erase peer.handle) changed.registry
        registered := changed.registered
        disposed := congrArg (· + 1) changed.disposed
        deeds := changed.deeds
        lapses := changed.lapses }

theorem World.Plain.settled {after : World σ Mark} (plain : world.Plain after) (peer : Peer) :
    (world.settled peer).Plain (after.settled peer) := by
  unfold World.settled
  rw [plain.life]
  exact plain.concluded peer _

/-- A registration that the managed side does not hold is disposed of when it is
settled, and its handle is free. -/
private theorem World.settled_of_unheld (genuine : world.Genuine peer)
    (closing : (world.life peer.entry).Closing)
    (unheld : ((world.settled peer).life peer.entry).managedRefs = 0) :
    ((world.settled peer).life peer.entry).state = .disposed ∧
      (world.settled peer).peer? peer.handle = none := by
  obtain ⟨entry, found, _⟩ := genuine
  let given := { world.life peer.entry with nativeRef := false }
  have left : (world.settled peer).life peer.entry = given.tryTeardown.2 :=
    (World.life_concluded world peer _ _).trans (World.life_setLife_self found _)
  rw [left] at unheld ⊢
  rw [Lifecycle.tryTeardown_managedRefs] at unheld
  rcases Lifecycle.tryTeardown_cases given with ⟨_, _, torn⟩ | ⟨kept, torn⟩
  · rw [torn]
    refine ⟨rfl, ?_⟩
    have settled : world.settled peer =
        (world.setLife peer.entry given.tornDown).freed peer.handle := by
      show world.concluded peer given.tryTeardown = _
      rw [torn]
      rfl
    rw [settled]
    exact Option.map_eq_none_iff.mpr
      ((Registry.lookup?_erase _ peer.handle peer.handle).trans (if_pos rfl))
  · have counted : given.retainCount = 0 := by
      show 0 + given.managedRefs = 0
      rw [Nat.zero_add]
      exact unheld
    exact absurd closing.1 (kept.resolve_left (absurd counted))

/-! ## Closed callbacks -/

/-- A closed callback begins, the last of these moments. The native reference is
not given up yet. -/
structure World.CallsClosed (world : World σ Mark) (peer : Peer) (done : List (Moment Mark))
    (begun : World σ Mark) : Prop where
  acts : begun.acts = world.acts ++ done
  host : begun.host = world.host
  sound : begun.Sound
  genuine : begun.Genuine peer
  closing : (begun.life peer.entry).Closing

namespace World.CallsClosed

variable {done : List (Moment Mark)} {begun ended : World σ Mark}

/-- What has been done before is put in front. -/
theorem after {before : World σ Mark} {earlier : List (Moment Mark)}
    (closes : world.CallsClosed peer done begun) (acts : world.acts = before.acts ++ earlier)
    (host : world.host = before.host) : before.CallsClosed peer (earlier ++ done) begun where
  acts := by rw [closes.acts, acts, List.append_assoc]
  host := closes.host.trans host
  sound := closes.sound
  genuine := closes.genuine
  closing := closes.closing

section Returned

variable (closes : world.CallsClosed peer done begun) (evolves : begun.Evolves told)
  (settles : (told.settled peer).Plain ended)

include closes evolves settles

/-- From the callback on, the registration tells nobody of anything. -/
theorem quiet : ∃ rest, ended.deeds peer.entry =
    world.deeds peer.entry ++ done.filterMap (Moment.deed? peer.entry) ++ rest ∧
      ∀ deed ∈ rest, deed.isQuiet = true := by
  obtain ⟨_, rest, grown, quiet⟩ := evolves.path.quiet_of_closed closes.sound
    (by rw [closes.closing.1]; rfl)
  refine ⟨rest, ?_, quiet⟩
  calc
    ended.deeds peer.entry = told.deeds peer.entry :=
      (settles.deeds _).trans (World.deeds_concluded told peer _ _)
    _ = begun.deeds peer.entry ++ rest := grown
    _ = _ := by rw [World.deeds_of_acts closes.acts]

/-- Nothing is left of a registration that nobody holds once the callback has
returned. -/
theorem disposed (unheld : (ended.life peer.entry).managedRefs = 0) :
    (ended.life peer.entry).state = .disposed ∧ ended.peer? peer.handle = none := by
  have closing : (told.life peer.entry).Closing := (evolves.closing _).mpr closes.closing
  rw [settles.life] at unheld ⊢
  obtain ⟨spent, free⟩ :=
    World.settled_of_unheld (evolves.genuine closes.genuine) closing unheld
  refine ⟨spent, ?_⟩
  unfold World.peer?
  rw [settles.registry]
  exact free

end Returned

end World.CallsClosed

variable [Custodian σ]

namespace Delivery

variable {host : Host σ Mark} {handle : Handle}

/-- A closed event with a message that is text begins the callback with that
text, where the runtime works, and the native reference is given up when it has
returned. -/
theorem onClosed_begins (hostEvolves : host.Evolves) (sound : world.Sound)
    (known : world.peer? handle = some peer)
    (live : (world.life peer.entry).state.isClosed = false) (works : world.runtime.Works)
    (domain code : Int) (text : String) :
    ∃ target attached begun, (world.life peer.entry).pin = some target ∧
      world.CallsClosed peer [.callback peer target (.closed ⟨.ofRaw domain, code, text⟩) attached]
        begun ∧
      ∀ {told}, host.callback peer target (.closed ⟨.ofRaw domain, code, text⟩) begun =
          (.ok (), told) →
        ∃ after, onClosed host handle domain code (messageBytes text) world =
            (.ok (.ok ()), after) ∧ (told.settled peer).Plain after := by
  have genuine := Registration.genuine_of_peer? sound known
  obtain ⟨target, pinned⟩ := (sound.life_proper genuine).exists_pin
    (SocketState.ne_disposed_of_not_isClosed live)
  let held := world.engage peer.entry
  let accepted := held.setLife peer.entry { world.life peer.entry with state := .closed }
  have began : (held.life peer.entry).beginClose = _ := Lifecycle.beginClose_of_live live pinned
  have accepts : (held.life peer.entry).Accepts (.closed ⟨.ofRaw domain, code, text⟩) target _ :=
    .closed began
  have acceptedSound : accepted.Sound :=
    (sound.plain (world.plain_engage peer.entry)).keepsHolds accepts.keeps
  have acceptedWorks : accepted.runtime.Works := works
  obtain ⟨begun, begins, delivers⟩ :=
    (deliver_onset host acceptedSound peer target
      (.closed ⟨.ofRaw domain, code, text⟩)).resolve_left fun missed => missed.1 acceptedWorks
  obtain ⟨attached, acts⟩ := begins.acts
  have acceptedGenuine : accepted.Genuine peer := World.genuine_setLife genuine
  have begunClosing : (begun.life peer.entry).Closing := by
    obtain ⟨entry, found, _⟩ := genuine
    have found' : held.entry? peer.entry = some entry := found
    rw [begins.life, World.life_setLife_self found']
    exact ⟨rfl, (sound.life_held _).native live⟩
  have closes : world.CallsClosed peer
      [.callback peer target (.closed ⟨.ofRaw domain, code, text⟩) attached] begun :=
    ⟨acts, begins.host, begins.sound acceptedSound, begins.genuine acceptedGenuine, begunClosing⟩
  refine ⟨target, attached, begun, pinned, closes, fun {told} returned => ?_⟩
  have evolves := World.Evolves.after_run
    (hostEvolves.callback closes.sound peer target _) returned
  have toldSound := evolves.sound closes.sound
  obtain ⟨_, delivered, delivery, quiet⟩ := delivers returned toldSound
  have plain := quiet.toPlain
  have closing : (delivered.life peer.entry).Closing := by
    rw [plain.life, evolves.closing]
    exact closes.closing
  have deliveredSound := toldSound.plain plain
  obtain ⟨settled, released, settling, stride⟩ :=
    releaseNative_concludes deliveredSound (plain.genuine (evolves.genuine closes.genuine)) closing
  have found : onClosed host handle domain code (messageBytes text) world = _ :=
    callBind_of_ok (Registration.lookup_of_known known _)
  simp only [translate_messageBytes] at found
  have closed : ∃ after, onClosed host handle domain code (messageBytes text) world =
      (.ok (.ok ()), after) ∧ settled.Plain after := by
    rw [found]
    refine Custody.holding_runs ?_ (stride.sound deliveredSound)
    exact (effectBind_of_ok rfl).trans ((callBind_of_ok (References.checked_of_ok began)).trans
      ((effectBind_of_ok (onPanic_of_ok delivery)).trans released))
  obtain ⟨after, ran, last⟩ := closed
  exact ⟨after, ran, ((plain.settled peer).trans settling).trans last⟩

end Delivery

/-! ## The first close of the managed side -/

namespace World

/-- The managed side closes the connection, and the engine is called. -/
def leaving (world : World σ Mark) (peer : Peer) (error : ErrorRecord) : World σ Mark :=
  (((world.push (.marked (.called (.socket peer.entry (.closed error))))).engage
      peer.entry).setLife peer.entry
    { world.life peer.entry with managedClosed := true, state := .closePending }).push
    (.engineCalled (some peer.entry) peer.handle (.closed error))

omit [Custodian σ] in
theorem leaving_life (genuine : world.Genuine peer) (error : ErrorRecord) :
    (world.leaving peer error).life peer.entry =
      { world.life peer.entry with managedClosed := true, state := .closePending } := by
  obtain ⟨entry, found, _⟩ := genuine
  exact life_setLife_self found _

omit [Custodian σ] in
theorem leaving_acts (world : World σ Mark) (peer : Peer) (error : ErrorRecord) :
    (world.leaving peer error).acts = world.acts ++
      [.marked (.called (.socket peer.entry (.closed error))),
        .engineCalled (some peer.entry) peer.handle (.closed error)] := by
  let called := world.push (.marked (.called (.socket peer.entry (.closed error))))
  have calling : (world.leaving peer error).acts =
      called.acts ++ [.engineCalled (some peer.entry) peer.handle (.closed error)] :=
    acts_push _ _
  have calls : called.acts =
      world.acts ++ [.marked (.called (.socket peer.entry (.closed error)))] := world.acts_push _
  rw [calling, calls, List.append_assoc]
  rfl

end World

section First

variable (live : (world.life peer.entry).state.isClosed = false)
  (unfinished : (world.life peer.entry).managedClosed = false)

include live unfinished

omit [Custodian σ] in
theorem World.leaving_sound (sound : world.Sound) (genuine : world.Genuine peer)
    (error : ErrorRecord) : (world.leaving peer error).Sound := by
  let held := (world.push (.marked (.called (.socket peer.entry (.closed error))))).engage
    peer.entry
  have heldSound : held.Sound := sound.of_same rfl rfl
  have heldGenuine : held.Genuine peer := genuine
  have forwards : (held.life peer.entry).Forwards held.config.maxPendingWriteBytes (.closed error)
      { world.life peer.entry with managedClosed := true, state := .closePending } :=
    .closed (Lifecycle.markManagedClosed_of_live unfinished live)
  exact (Stride.forwarded heldGenuine forwards (.refl _)).sound heldSound

/-- The first close of the managed side goes on to the engine, and returns when the
engine does. -/
theorem BridgeCall.closed_returns (sound : world.Sound) (genuine : world.Genuine peer)
    {behaviour : Behaviour σ} {depth : Nat} {error : ErrorRecord} {heard : World σ Mark}
    (hears : (behaviour.engine peer.handle (.closed error)).run (make behaviour depth)
      (world.leaving peer error) = (.ok (), heard)) :
    ∃ ended, (BridgeCall.socket peer.entry (.closed error)).make behaviour (depth + 1) world =
        (.ok .done, ended) ∧ heard.Plain ended := by
  let host := behaviour.host (make behaviour depth)
  let called := world.push (.marked (.called (.socket peer.entry (.closed error))))
  let held := called.engage peer.entry
  have marked : (held.life peer.entry).markManagedClosed = (true,
      { world.life peer.entry with managedClosed := true, state := .closePending }) :=
    Lifecycle.markManagedClosed_of_live unfinished live
  have closed : Socket.closed host peer error held = (.ok (), heard) :=
    (Socket.closed_forwarded marked).trans ((bind_of_ok rfl).trans hears)
  have invoked : Socket.invoke host peer (.closed error) held = (.ok (.ok none), heard) :=
    callBind_of_ok (effect_of_ok closed)
  have answered : replyTo (Socket.invoke host peer (.closed error)) .ofCount held =
      (.ok .done, heard) := bind_of_ok invoked
  have leavingSound := World.leaving_sound live unfinished sound genuine error
  have evolves : (world.leaving peer error).Evolves heard := World.Evolves.after_run
    ((behaviour.host_make_evolves depth).engine leavingSound peer.handle _) hears
  obtain ⟨done, finished, finishing⟩ :=
    Custody.holding_runs answered (evolves.sound leavingSound)
  have calledGenuine : called.Genuine peer := genuine
  have performed : (BridgeCall.socket peer.entry (.closed error)).perform host called =
      (.ok .done, done) := (perform_of_genuine calledGenuine host (.closed error)).trans finished
  exact ⟨_, make_of_performed performed, finishing.trans (.push (fun _ => rfl) rfl)⟩

end First

/-! ## Engines that echo -/

/-- The engine returns once the end that it has reported is taken note of. -/
theorem Behaviour.Echoes.echoed {behaviour : Behaviour σ} {set : σ → Bool}
    (echoes : behaviour.Echoes set) {depth : Nat} {handle : Handle} {error : ErrorRecord}
    (world : World σ Mark) (echoing : set world.host = true) {after : World σ Mark}
    (reported : (BridgeCall.native handle (.closed error.domain.raw error.code
      (messageBytes error.message))).make behaviour depth world = (.ok .done, after)) :
    (behaviour.engine handle (.closed error)).run (BridgeCall.make behaviour depth) world =
      (.ok (), after) := by
  have looked : (behaviour.engine handle (.closed error)).run (BridgeCall.make behaviour depth)
      world = (if set world.host then .echo handle error else .finish () : UserCode σ Unit).run
        (BridgeCall.make behaviour depth) world := by
    rw [echoes]
    rfl
  rw [echoing] at looked
  exact looked.trans (bind_of_ok reported)

/-- A close that is the first of the managed side comes back from an engine that
echoes, and the callback begins that it is told to. -/
theorem BridgeCall.closed_echoed (sound : world.Sound) (genuine : world.Genuine peer)
    (live : (world.life peer.entry).state.isClosed = false)
    (unfinished : (world.life peer.entry).managedClosed = false) (works : world.runtime.Works)
    {behaviour : Behaviour σ} {set : σ → Bool} (echoes : behaviour.Echoes set)
    (echoing : set world.host = true) {error : ErrorRecord} {number : Int}
    (numbered : error.domain = .ofRaw number) (depth : Nat) :
    let request := BridgeCall.socket peer.entry (.closed error)
    let report := BridgeCall.native peer.handle
      (.closed error.domain.raw error.code (messageBytes error.message))
    ∃ target attached begun, (world.life peer.entry).pin = some target ∧
      world.CallsClosed peer [.marked (.called request),
        .engineCalled (some peer.entry) peer.handle (.closed error), .marked (.called report),
        .callback peer target (.closed error) attached] begun ∧
      ∀ {told}, (behaviour.callback peer target (.closed error)).run (make behaviour depth) begun =
          (.ok (), told) →
        ∃ ended, request.make behaviour (depth + 2) world = (.ok .done, ended) ∧
          (told.settled peer).Plain ended := by
  intro request report
  -- The report is made from within the call of the engine, so it is followed first, one level
  -- further down, and the close around it is put together from what it leaves.
  let calling := world.leaving peer error
  let reported := calling.push (.marked (.called report))
  have reportedLife : reported.life peer.entry =
      { world.life peer.entry with managedClosed := true, state := .closePending } :=
    World.leaving_life genuine error
  have reportedSound : reported.Sound :=
    (World.leaving_sound live unfinished sound genuine error).push _
  have reportedLive : (reported.life peer.entry).state.isClosed = false := by
    rw [reportedLife]
    rfl
  have reportedGenuine : reported.Genuine peer := World.genuine_setLife genuine
  have known : reported.peer? peer.handle = some peer :=
    reportedSound.peer?_of_genuine reportedGenuine
      (SocketState.ne_disposed_of_not_isClosed reportedLive)
  have reportedWorks : reported.runtime.Works := works
  have spelled : (⟨.ofRaw error.domain.raw, error.code, error.message⟩ : ErrorRecord) = error := by
    rw [numbered, ErrorDomain.raw_ofRaw, ← numbered]
  obtain ⟨target, attached, begun, pinned, closes, returns⟩ := Delivery.onClosed_begins
    (behaviour.host_make_evolves depth) reportedSound known reportedLive reportedWorks
    error.domain.raw error.code error.message
  rw [spelled] at closes returns
  rw [reportedLife] at pinned
  have echoed : reported.acts = calling.acts ++ [.marked (.called report)] := calling.acts_push _
  have closesHere := (closes.after echoed rfl).after (world.leaving_acts peer error) rfl
  refine ⟨target, attached, begun, pinned, closesHere, fun {told} returned => ?_⟩
  obtain ⟨after, ran, settles⟩ := returns returned
  have reportMade : report.make behaviour (depth + 1) calling =
      (.ok .done, after.push (.marked (.replied report .done))) :=
    make_of_performed (bind_of_ok ran)
  obtain ⟨ended, made, ending⟩ := closed_returns live unfinished sound genuine
    (echoes.echoed calling echoing reportMade)
  exact ⟨ended, made, (settles.trans (.push (fun _ => rfl) rfl)).trans ending⟩

/-- A close code stands for a domain by its number. -/
theorem ErrorRecord.ofCloseCode_numbered (code : Int) (reason : Option String) :
    ∃ number, (ofCloseCode code reason).domain = .ofRaw number := by
  unfold ofCloseCode
  split
  · exact ⟨1, rfl⟩
  · exact ⟨6, rfl⟩

namespace Attained

/-- A close through an echoing engine comes back with the same error. In a world
that user code comes to see, between calls or within them, let a connection be
neither closed nor finished by the managed side, let the runtime work and the engine
echo. A close with an error whose domain has a number calls the engine once, and
the target once, with that same error. If the callback returns, the close does.

From then on the registration is told of nothing more. It is disposed of, and its
handle is free, if nobody retains it. However things go on, closing it again is
answered, and changes nothing. -/
theorem close_echoed (attained : Attained world) (genuine : world.Genuine peer)
    (live : (world.life peer.entry).state.isClosed = false)
    (unfinished : (world.life peer.entry).managedClosed = false) (works : world.runtime.Works)
    {behaviour : Behaviour σ} {set : σ → Bool} (echoes : behaviour.Echoes set)
    (echoing : set world.host = true) {error : ErrorRecord} {number : Int}
    (numbered : error.domain = .ofRaw number) (depth : Nat) :
    let request := BridgeCall.socket peer.entry (.closed error)
    let report := BridgeCall.native peer.handle
      (.closed error.domain.raw error.code (messageBytes error.message))
    ∃ target attached begun, (world.life peer.entry).pin = some target ∧
      begun.acts = world.acts ++ [.marked (.called request),
        .engineCalled (some peer.entry) peer.handle (.closed error), .marked (.called report),
        .callback peer target (.closed error) attached] ∧
      begun.host = world.host ∧
      ∀ told, (behaviour.callback peer target (.closed error)).run
          (BridgeCall.make behaviour depth) begun = (.ok (), told) →
        ∃ ended, request.make behaviour (depth + 2) world = (.ok .done, ended) ∧
          (∃ rest, ended.deeds peer.entry = world.deeds peer.entry ++
              [.forwarded (.closed error), .callback .closed] ++ rest ∧
            ∀ deed ∈ rest, deed.isQuiet = true) ∧
          (ended.outstanding peer.entry = 0 →
            (ended.life peer.entry).state = .disposed ∧ ended.peer? peer.handle = none) ∧
          ∀ later, Onward ended later → ∀ (behaviour : Behaviour σ) depth other,
            let again := BridgeCall.socket peer.entry (.closed other)
            ∃ after, again.make behaviour (depth + 1) later = (.ok .done, after) ∧
              later.Spared [.marked (.called again), .marked (.replied again .done)]
                later.own.metrics after := by
  intro request report
  obtain ⟨target, attached, begun, pinned, closes, returns⟩ :=
    BridgeCall.closed_echoed attained.sound genuine live unfinished works echoes echoing numbered
      depth
  refine ⟨target, attached, begun, pinned, closes.acts, closes.host, fun told returned => ?_⟩
  obtain ⟨ended, made, settles⟩ := returns returned
  have evolves : begun.Evolves told := World.Evolves.after_run
    ((behaviour.host_make_evolves depth).callback closes.sound peer target (.closed error)) returned
  have endedAttained : Attained ended := by
    have made' : Attained (request.make behaviour (depth + 2) world).2 :=
      attained.called behaviour (depth + 2) request
    rwa [made] at made'
  obtain ⟨rest, deeds, quiet⟩ : ∃ rest, ended.deeds peer.entry = world.deeds peer.entry ++
      [.forwarded (.closed error), .callback .closed] ++ rest ∧
        ∀ deed ∈ rest, deed.isQuiet = true := by
    have quietly := closes.quiet evolves settles
    simpa [List.filterMap_cons, Moment.deed?, Mark.deed?, SocketEvent.kind, request, report]
      using quietly
  have closed : (ended.life peer.entry).state.isClosed = true :=
    (endedAttained.reflects peer.entry).closed.mpr (by rw [deeds]; simp)
  have endedGenuine : ended.Genuine peer := by
    have kept := (request.make_evolves behaviour (depth + 2) attained.sound).genuine genuine
    rwa [made] at kept
  refine ⟨ended, made, ⟨rest, deeds, quiet⟩, fun unheld => ?_, fun later onward => ?_⟩
  · rw [← endedAttained.managedRefs] at unheld
    exact closes.disposed evolves settles unheld
  · have path := onward.path endedAttained.sound
    exact BridgeCall.closed_ignored (path.sound endedAttained.sound) (path.genuine endedGenuine)
      (.inr (path.quiet_of_closed endedAttained.sound closed).1)

/-- The connection was open on both sides and is retained by nobody. -/
theorem close_echoed_of_going_away :
    let error := ErrorRecord.ofCloseCode CloseCode.goingAway (some "away")
    let request := BridgeCall.socket ⟨0⟩ (.closed error)
    let ended := (request.make Bystander.echoing 2 Bystander.ready).2
    (Bystander.ready.life ⟨0⟩).state = .opened ∧
      (request.make Bystander.echoing 2 Bystander.ready).1 = .ok .done ∧
      (∃ rest, ended.deeds ⟨0⟩ = Bystander.ready.deeds ⟨0⟩ ++
        [.forwarded (.closed error), .callback .closed] ++ rest) ∧
      (ended.life ⟨0⟩).state = .disposed ∧ ended.peer? Bystander.handle = none := by
  intro error request ended
  have named : (Bystander.ready.entry? ⟨0⟩).map Entry.handle = some Bystander.handle := by
    decide +kernel
  have genuine : Bystander.ready.Genuine ⟨⟨0⟩, Bystander.handle⟩ := Option.map_eq_some_iff.mp named
  have works : Bystander.ready.runtime.Works := trivial
  obtain ⟨_, numbered⟩ := ErrorRecord.ofCloseCode_numbered CloseCode.goingAway (some "away")
  obtain ⟨target, attached, begun, _, _, _, returns⟩ :=
    Bystander.attained_ready.close_echoed genuine (by decide +kernel) (by decide +kernel) works
      Bystander.echoing_echoes rfl numbered 0
  obtain ⟨_, made, ⟨rest, deeds, _⟩, disposes, _⟩ := returns begun rfl
  have unheld : ended.outstanding ⟨0⟩ = 0 := by decide +kernel
  obtain rfl : ended = _ := congrArg Prod.snd made
  exact ⟨by decide +kernel, congrArg Prod.fst made, ⟨rest, deeds⟩, disposes unheld⟩

end Attained

end TransportBridge
