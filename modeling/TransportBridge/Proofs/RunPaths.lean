import TransportBridge.Proofs.Rejections

/-!
Contract: every run of bridge calls is a path of strides.

The calls of the managed side evolve as the entry points of the native side
do. So does every call that user code makes, by induction on the depth of
nesting, and with it all that the bridge calls.

Owns: that reachable worlds are at the end of a path from a fresh one, with
sound books, and that no lifecycle is closing between the calls at the top.
-/

namespace TransportBridge

variable {σ α : Type} {world : World σ Mark}

/-! ## Calls of the managed side -/

namespace Socket

open References Registration

variable {host : Host σ Mark} {peer : Peer} {next : Lifecycle}

/-- A call that has passed its check goes on to the engine. -/
theorem forwardFor_evolves (hostEvolves : host.Evolves) (sound : world.Sound)
    (genuine : world.Genuine peer) {call : EngineCall}
    (forwards : (world.life peer.entry).Forwards world.config.maxPendingWriteBytes call next)
    {ready : World σ Mark} (plain : (world.setLife peer.entry next).Plain ready) :
    world.Evolves (forwardFor host peer call ready).2 := by
  obtain ⟨keeps, stays⟩ := forwards.keeps
  have same : next.Closing ↔ (world.life peer.entry).Closing :=
    iff_of_false (Lifecycle.not_closing_of_live stays) (Lifecycle.not_closing_of_live keeps.live)
  let begun := ready.push (.engineCalled (some peer.entry) peer.handle call)
  have evolves : world.Evolves begun :=
    .of_stride (.forwarded genuine forwards plain) genuine same plain.life
  have called : forwardFor host peer call ready = host.engine peer.handle call begun :=
    bind_of_ok rfl
  rw [called]
  exact evolves.trans (hostEvolves.engine (evolves.sound sound) peer.handle call)

theorem opened_evolves (hostEvolves : host.Evolves) (sound : world.Sound)
    (genuine : world.Genuine peer) : world.Evolves (opened host peer world).2 := by
  apply checked_evolves Lifecycle.markReady_refused
  intro first next marked
  cases first with
  | true => exact .effect (forwardFor_evolves hostEvolves sound genuine (.opened marked) (.refl _))
  | false =>
      rcases Lifecycle.markReady_ok marked with ⟨first, _⟩ | ⟨_, _, rfl⟩
      · cases first
      · rw [World.setLife_life]
        exact .refl world

theorem gotHttpResponse_evolves (hostEvolves : host.Evolves) (sound : world.Sound)
    (genuine : world.Genuine peer) (status : Int) (headers : Bytes) :
    world.Evolves (gotHttpResponse host peer status headers world).2 :=
  checked_evolves Lifecycle.checkHandshake_refused fun _ _ checked =>
    .effect (forwardFor_evolves hostEvolves sound genuine (.httpResponse checked) (.refl _))

theorem write_evolves (hostEvolves : host.Evolves) (sound : world.Sound)
    (genuine : world.Genuine peer) (data : Bytes) :
    world.Evolves (write host peer data world).2 :=
  .looking (checked_evolves Lifecycle.recordWrite_refused fun _ _ recorded =>
    .effect (forwardFor_evolves hostEvolves sound genuine (.write recorded) (.refl _)))

theorem completedReceive_evolves (hostEvolves : host.Evolves) (sound : world.Sound)
    (genuine : world.Genuine peer) (byteCount : Nat) :
    world.Evolves (completedReceive host peer byteCount world).2 := by
  apply checked_evolves Lifecycle.acknowledgeReceive_refused
  intro freed next acknowledged
  refine .afterCalm (.forM fun buffer _ => .dropBuffer buffer) ?_
  intro _ dropped plain
  have forwards : (world.life peer.entry).Forwards world.config.maxPendingWriteBytes
      (.completedReceive byteCount) next := .completedReceive acknowledged
  exact .effect (forwardFor_evolves hostEvolves sound genuine forwards plain)

theorem closeRequested_evolves (hostEvolves : host.Evolves) (sound : world.Sound)
    (genuine : world.Genuine peer) (status : Int) (message : String) :
    world.Evolves (closeRequested host peer status message world).2 :=
  checked_evolves Lifecycle.requestClose_refused fun _ _ requested =>
    .effect (forwardFor_evolves hostEvolves sound genuine (.closeRequest requested) (.refl _))

/-- The first close of the managed side goes on to the engine. -/
theorem closed_forwarded {error : ErrorRecord}
    (marked : (world.life peer.entry).markManagedClosed = (true, next)) :
    closed host peer error world =
      forwardFor host peer (.closed error) (world.setLife peer.entry next) := by
  have changed : change peer.entry Lifecycle.markManagedClosed world =
      (.ok true, world.setLife peer.entry next) := by
    unfold change
    rw [marked]
  exact bind_of_ok changed

/-- Any other is ignored. -/
theorem closed_ignored {error : ErrorRecord}
    (marked : (world.life peer.entry).markManagedClosed = (false, world.life peer.entry)) :
    closed host peer error world =
      (.ok (), world.push (.noted (.repeatedCloseIgnored peer.handle))) := by
  have changed : change peer.entry Lifecycle.markManagedClosed world = (.ok false, world) := by
    unfold change
    rw [marked]
    simp only [World.setLife_life]
  exact bind_of_ok changed

theorem closed_evolves (hostEvolves : host.Evolves) (sound : world.Sound)
    (genuine : world.Genuine peer) (error : ErrorRecord) :
    world.Evolves (closed host peer error world).2 := by
  rcases Lifecycle.markManagedClosed_cases (world.life peer.entry) with
    ⟨_, _, marked⟩ | ⟨_, marked⟩
  · rw [closed_forwarded marked]
    exact forwardFor_evolves hostEvolves sound genuine (.closed marked) (.refl _)
  · rw [closed_ignored marked]
    exact .of_plain (.push (fun _ => rfl) rfl)

/-- Every call but those that count references. -/
theorem invoke_evolves [Custodian σ] (hostEvolves : host.Evolves) (sound : world.Sound)
    (genuine : world.Genuine peer) {call : SocketCall} (notRetain : call ≠ .retain)
    (notRelease : call ≠ .release) : world.Evolves (invoke host peer call world).2 := by
  cases call with
  | opened =>
      exact .callBind (opened_evolves hostEvolves sound genuine) fun _ after _ _ => .refl after
  | httpResponse status headers =>
      exact .callBind (gotHttpResponse_evolves hostEvolves sound genuine status headers)
        fun _ after _ _ => .refl after
  | write data =>
      exact .callBind (write_evolves hostEvolves sound genuine data)
        fun _ after _ _ => .refl after
  | completedReceive byteCount =>
      exact .callBind (completedReceive_evolves hostEvolves sound genuine byteCount)
        fun _ after _ _ => .refl after
  | closeRequest status message =>
      exact .callBind (closeRequested_evolves hostEvolves sound genuine status message)
        fun _ after _ _ => .refl after
  | closed error =>
      exact .effectBind (closed_evolves hostEvolves sound genuine error)
        fun _ after _ _ => .refl after
  | retain => exact absurd rfl notRetain
  | release => exact absurd rfl notRelease

end Socket

/-! ## Calls of user code -/

namespace BridgeCall

open References

theorem replyTo_world (call : Call σ Mark α) (answer : α → Reply) (world : World σ Mark) :
    (replyTo call answer world).2 = (call world).2 := by
  cases ran : call world with
  | mk outcome after =>
      cases outcome with
      | ok result =>
          have replied : replyTo call answer world = _ :=
            bind_of_ok (show call.run world = _ from ran)
          rw [replied]
          rfl
      | error panic =>
          have replied : replyTo call answer world = _ :=
            bind_of_error (show call.run world = _ from ran)
          rw [replied]

theorem replyTo_evolves {call : Call σ Mark α} {answer : α → Reply}
    (evolves : world.Evolves (call world).2) :
    world.Evolves (replyTo call answer world).2 := by
  rw [replyTo_world]
  exact evolves

variable [Custodian σ] {host : Host σ Mark}

/-- A call that counts no references. -/
theorem perform_evolves (hostEvolves : host.Evolves) (sound : world.Sound) {call : BridgeCall}
    (notRetain : ∀ entry, call ≠ .socket entry .retain)
    (notRelease : ∀ entry, call ≠ .socket entry .release) :
    world.Evolves (call.perform host world).2 := by
  cases call with
  | openOutbound address framing target =>
      exact replyTo_evolves
        (Registration.openOutbound_evolves hostEvolves sound address framing target)
  | adoptInbound handle target =>
      exact replyTo_evolves (Registration.register_evolves sound handle target)
  | native handle event =>
      exact replyTo_evolves (Delivery.dispatch_evolves hostEvolves sound handle event)
  | socket entry call =>
      refine .bind_run (rfl : (get : BridgeM σ Mark _) world = (.ok world, world)) ?_
      cases found : world.entry? entry with
      | none => exact .refl world
      | some registration =>
          refine Custody.holding_evolves sound fun held holding => replyTo_evolves ?_
          have genuine : held.Genuine ⟨entry, registration.handle⟩ :=
            holding.genuine ⟨registration, found, rfl⟩
          exact Socket.invoke_evolves hostEvolves (sound.plain holding) genuine
            (fun same => notRetain entry (by rw [same])) fun same => notRelease entry (by rw [same])

/-- The reply to a call on a connection that is there. -/
private theorem perform_of_invoked {entry : EntryId} {registration : Entry} {call : SocketCall}
    {answer : Except BridgeError (Option Nat)} {done : World σ Mark}
    (found : world.entry? entry = some registration)
    (invoked : Socket.invoke host ⟨entry, registration.handle⟩ call (world.engage entry) =
      (.ok answer, done)) (sound : done.Sound) :
    ∃ after, (BridgeCall.socket entry call).perform host world =
      (.ok (.ofAnswer .ofCount answer), after) ∧ done.Plain after := by
  have ran : replyTo (Socket.invoke host ⟨entry, registration.handle⟩ call) .ofCount
      (world.engage entry) = (.ok (.ofAnswer .ofCount answer), done) := bind_of_ok invoked
  obtain ⟨after, held, plain⟩ := Custody.holding_runs ran sound
  refine ⟨after, ?_, plain⟩
  have began : (BridgeCall.socket entry call).perform host world = _ := bind_of_ok rfl
  rw [began, found]
  exact held

theorem perform_of_absent {entry : EntryId} {call : SocketCall}
    (absent : world.entry? entry = none) :
    (BridgeCall.socket entry call).perform host world = (.ok .absent, world) := by
  have began : (BridgeCall.socket entry call).perform host world = _ := bind_of_ok rfl
  rw [began, absent]
  rfl

/-- The world after a call and the mark of its reply. -/
def replied (host : Host σ Mark) (call : BridgeCall) (world : World σ Mark) : World σ Mark :=
  (call.perform host world).2.push
    (.marked (.replied call (.ofOutcome (call.perform host world).1)))

private theorem replied_of_perform {call : BridgeCall} {reply : Reply} {after : World σ Mark}
    (ran : call.perform host world = (.ok reply, after)) :
    replied host call world = after.push (.marked (.replied call reply)) := by
  unfold replied
  rw [ran]
  rfl

theorem retain_evolves (sound : world.Sound) (entry : EntryId) :
    world.Evolves (replied host (.socket entry .retain) world) := by
  cases found : world.entry? entry with
  | none =>
      rw [replied_of_perform (perform_of_absent found)]
      exact .of_plain (.push (fun _ => rfl) rfl)
  | some registration =>
      let peer : Peer := ⟨entry, registration.handle⟩
      let held := world.engage entry
      have holding : world.Plain held := world.plain_engage entry
      have genuine : held.Genuine peer := ⟨registration, found, rfl⟩
      have heldSound := sound.plain holding
      apply (World.Evolves.of_plain holding).trans
      cases taken : (held.life entry).retain with
      | ok outcome =>
          obtain ⟨references, next⟩ := outcome
          have invoked : Socket.invoke host peer .retain held =
              (.ok (.ok (some references)), held.setLife entry next) :=
            callBind_of_ok (checked_of_ok taken)
          obtain ⟨after, ran, plain⟩ :=
            perform_of_invoked found invoked (heldSound.retained taken)
          obtain ⟨live, stays, _⟩ := Lifecycle.retain_ok taken
          have staysLive : next.state.isClosed = false := by rw [stays]; exact live
          have same : next.Closing ↔ (held.life entry).Closing :=
            iff_of_false (Lifecycle.not_closing_of_live staysLive)
              (Lifecycle.not_closing_of_live live)
          rw [replied_of_perform ran]
          exact .of_stride (.retained genuine taken plain) genuine same plain.life
      | error refusal =>
          obtain ⟨done, refused, telling⟩ : Rejects (retain .own peer) _ held :=
            checked_of_refused taken (Lifecycle.retain_refused taken)
          have invoked : Socket.invoke host peer .retain held = (.ok (.error _), done) :=
            callBind_of_rejected refused
          obtain ⟨after, ran, plain⟩ :=
            perform_of_invoked found invoked (heldSound.plain telling)
          rw [replied_of_perform ran]
          have noLapse : (refusal.toError peer.handle).isLapse = false :=
            (refusal.toError_isLapse _).trans (Lifecycle.retain_refused taken)
          exact .of_plain ((telling.trans plain).trans (.push (fun _ => rfl) noLapse))

/-- A reference that there is is given up, and the registration with the last
one. -/
theorem release_runs (sound : world.Sound) {entry : EntryId} {registration : Entry}
    (found : world.entry? entry = some registration) {outcome : Option Teardown × Lifecycle}
    (given : (world.life entry).release = .ok outcome) :
    ∃ after, (BridgeCall.socket entry .release).perform host world = (.ok .done, after) ∧
      ((world.engage entry).concluded ⟨entry, registration.handle⟩ outcome).Plain after := by
  let peer : Peer := ⟨entry, registration.handle⟩
  let held := world.engage entry
  have heldSound : held.Sound := sound.plain (world.plain_engage entry)
  have genuine : held.Genuine peer := ⟨registration, found, rfl⟩
  have taken : (held.life entry).release = .ok outcome := given
  have kept := (heldSound.life_held entry).release taken
  obtain ⟨live, _, rfl⟩ := Lifecycle.release_ok taken
  obtain ⟨done, finished, concluded⟩ := finish_concludes heldSound genuine live kept
  have invoked : Socket.invoke host peer .release held = (.ok (.ok none), done) :=
    callBind_of_ok ((callBind_of_ok (checked_of_ok taken)).trans finished)
  have doneSound : done.Sound :=
    (heldSound.concluded genuine (by rfl) (by rfl) live kept).plain concluded
  obtain ⟨after, ran, plain⟩ := perform_of_invoked found invoked doneSound
  exact ⟨after, ran, concluded.trans plain⟩

theorem release_evolves (sound : world.Sound) (entry : EntryId) :
    world.Evolves (replied host (.socket entry .release) world) := by
  cases found : world.entry? entry with
  | none =>
      rw [replied_of_perform (perform_of_absent found)]
      exact .of_plain (.push (fun _ => by simp [Moment.deed?, Mark.deed?]) rfl)
  | some registration =>
      let peer : Peer := ⟨entry, registration.handle⟩
      let held := world.engage entry
      have holding : world.Plain held := world.plain_engage entry
      have genuine : held.Genuine peer := ⟨registration, found, rfl⟩
      have heldSound := sound.plain holding
      apply (World.Evolves.of_plain holding).trans
      cases taken : (held.life entry).release with
      | ok outcome =>
          obtain ⟨after, ran, concluded⟩ := release_runs sound found taken
          rw [replied_of_perform ran]
          refine .of_stride (.released genuine taken concluded) genuine
            (Lifecycle.release_closing taken) fun id => ?_
          exact (concluded.life id).trans (World.life_concluded held peer _ id)
      | error refusal =>
          obtain ⟨done, refused, telling⟩ : Rejects (checked .own peer Lifecycle.release)
            (refusal.toError peer.handle) held :=
              checked_of_refused taken (Lifecycle.release_refused taken)
          have invoked : Socket.invoke host peer .release held =
              (.ok (.error (refusal.toError peer.handle)), done) :=
            callBind_of_rejected (callBind_of_rejected refused)
          obtain ⟨after, ran, plain⟩ :=
            perform_of_invoked found invoked (heldSound.plain telling)
          rw [replied_of_perform ran]
          refine ⟨.single (.unreleased genuine taken (telling.trans plain)), ?_⟩
          intro id
          exact iff_of_eq (congrArg Lifecycle.Closing ((telling.trans plain).life id))

/-- A call that is made over a host, together with its reply. -/
theorem replied_evolves (hostEvolves : host.Evolves) (sound : world.Sound) (call : BridgeCall) :
    world.Evolves (replied host call world) := by
  by_cases retain : ∃ entry, call = .socket entry .retain
  · obtain ⟨entry, rfl⟩ := retain
    exact retain_evolves sound entry
  · by_cases release : ∃ entry, call = .socket entry .release
    · obtain ⟨entry, rfl⟩ := release
      exact release_evolves sound entry
    · have notRetain := not_exists.mp retain
      have notRelease := not_exists.mp release
      refine (perform_evolves hostEvolves sound notRetain notRelease).then_plain
        (.push (fun _ => ?_) (perform_noLapse hostEvolves sound call))
      rcases call with _ | _ | _ | ⟨entry, call⟩
      case socket =>
        cases call with
        | retain => exact absurd rfl (notRetain entry)
        | release => exact absurd rfl (notRelease entry)
        | _ => rfl
      all_goals rfl

end BridgeCall

/-! ## Runs -/

section Runs

/-- User code evolves if the calls that it makes do. -/
theorem UserCode.run_evolves {make : BridgeCall → BridgeM σ Mark Reply}
    (makes : ∀ call (world : World σ Mark), world.Sound → world.Evolves (make call world).2)
    (code : UserCode σ α) (sound : world.Sound) : world.Evolves (code.run make world).2 := by
  induction code generalizing world with
  | finish result => exact .refl world
  | unwind panic => exact .refl world
  | look next inductionHypothesis =>
      exact .bind_run (rfl : (get : BridgeM σ Mark _) world = (.ok world, world))
        (inductionHypothesis world sound)
  | rearrange change next inductionHypothesis =>
      have rearranged : world.Plain (world.amid (change world.surroundings)) := .amid _
      exact (World.Evolves.of_plain rearranged).trans
        (inductionHypothesis (sound.plain rearranged))
  | call made next inductionHypothesis =>
      refine .bind (makes made world sound) ?_
      intro reply after _ evolves
      exact inductionHypothesis reply (evolves.sound sound)

theorem Behaviour.host_evolves {make : BridgeCall → BridgeM σ Mark Reply}
    (makes : ∀ call (world : World σ Mark), world.Sound → world.Evolves (make call world).2)
    (behaviour : Behaviour σ) : (behaviour.host make).Evolves where
  callback sound _ _ _ := UserCode.run_evolves makes _ sound
  createHandle sound _ _ := UserCode.run_evolves makes _ sound
  engine sound _ _ := UserCode.run_evolves makes _ sound
  createTarget sound _ _ _ _ := UserCode.run_evolves makes _ sound

variable [Custodian σ]

/-- A call that is not beyond the bound leaves its marks around what it
does. -/
theorem BridgeCall.make_runs (behaviour : Behaviour σ) (depth : Nat) (call : BridgeCall)
    (world : World σ Mark) :
    let host := behaviour.host (make behaviour depth)
    let called := world.push (.marked (.called call))
    call.make behaviour (depth + 1) world =
      (.ok (.ofOutcome (call.perform host called).1), replied host call called) :=
  (bind_of_ok rfl).trans ((bind_of_ok (catchPanic_eq _ _)).trans (bind_of_ok rfl))

theorem BridgeCall.make_succ (behaviour : Behaviour σ) (depth : Nat) (call : BridgeCall)
    (world : World σ Mark) :
    (call.make behaviour (depth + 1) world).2 =
      replied (behaviour.host (make behaviour depth)) call
        (world.push (.marked (.called call))) :=
  congrArg Prod.snd (make_runs behaviour depth call world)

/-- A call leaves its marks around what it has done, however it ends. -/
theorem BridgeCall.make_of_ended {behaviour : Behaviour σ} {depth : Nat} {call : BridgeCall}
    {outcome : Except Panic Reply} {after : World σ Mark}
    (performed : call.perform (behaviour.host (make behaviour depth))
      (world.push (.marked (.called call))) = (outcome, after)) :
    call.make behaviour (depth + 1) world =
      (.ok (.ofOutcome outcome), after.push (.marked (.replied call (.ofOutcome outcome)))) := by
  rw [make_runs]
  unfold replied
  rw [performed]

theorem BridgeCall.make_of_performed {behaviour : Behaviour σ} {depth : Nat} {call : BridgeCall}
    {reply : Reply} {after : World σ Mark}
    (performed : call.perform (behaviour.host (make behaviour depth))
      (world.push (.marked (.called call))) = (.ok reply, after)) :
    call.make behaviour (depth + 1) world =
      (.ok reply, after.push (.marked (.replied call reply))) :=
  make_of_ended performed

/-- Every call lets the world evolve, by induction on the depth of nesting. -/
theorem BridgeCall.make_evolves (behaviour : Behaviour σ) (depth : Nat) (call : BridgeCall)
    (sound : world.Sound) : world.Evolves (call.make behaviour depth world).2 := by
  induction depth generalizing call world with
  | zero => exact .refl world
  | succ depth inductionHypothesis =>
      have hostEvolves : (behaviour.host (make behaviour depth)).Evolves :=
        behaviour.host_evolves fun call world sound => inductionHypothesis call sound
      have called : world.Plain (world.push (.marked (.called call))) := .push (fun _ => rfl) rfl
      apply (World.Evolves.of_plain called).trans
      rw [make_succ]
      exact replied_evolves hostEvolves (sound.plain called) call

/-- So does whatever user code the bridge calls. -/
theorem Behaviour.host_make_evolves (behaviour : Behaviour σ) (depth : Nat) :
    (behaviour.host (BridgeCall.make behaviour depth)).Evolves :=
  behaviour.host_evolves fun call _ sound => call.make_evolves behaviour depth sound

namespace Reachable

/-- A reachable world has evolved from a fresh one. -/
theorem evolved (reached : Reachable world) :
    ∃ config surroundings, (World.fresh config surroundings : World σ Mark).Evolves world := by
  induction reached with
  | fresh config surroundings => exact ⟨config, surroundings, .refl _⟩
  | rearranged _ surroundings inductionHypothesis =>
      obtain ⟨config, before, evolves⟩ := inductionHypothesis
      exact ⟨config, before, evolves.then_plain (.amid _)⟩
  | called _ behaviour depth call inductionHypothesis =>
      obtain ⟨config, before, evolves⟩ := inductionHypothesis
      have sound := evolves.sound (.fresh config before)
      exact ⟨config, before, evolves.trans (call.make_evolves behaviour depth sound)⟩

theorem sound (reached : Reachable world) : world.Sound := by
  obtain ⟨config, surroundings, evolves⟩ := reached.evolved
  exact evolves.sound (.fresh config surroundings)

/-- No closed callback is running between the calls at the top. -/
theorem not_closing (reached : Reachable world) (id : EntryId) : ¬ (world.life id).Closing := by
  obtain ⟨config, surroundings, evolves⟩ := reached.evolved
  rw [evolves.closing]
  exact (nomatch ·.1)

/-- What a fresh world has and every stride keeps, reachable worlds have. -/
theorem invariant {holds : World σ Mark → Prop} (reached : Reachable world)
    (begins : ∀ config surroundings, holds (.fresh config surroundings))
    (keeps : ∀ {before after : World σ Mark}, before.Sound → holds before →
      Stride before after → holds after) : holds world := by
  obtain ⟨config, surroundings, evolves⟩ := reached.evolved
  exact evolves.path.invariant (.fresh config surroundings) (begins config surroundings) keeps

end Reachable

end Runs

end TransportBridge
