import TransportBridge.Proofs.ManagedCalls
import TransportBridge.Proofs.RunPaths

/-!
Contract: every run of bridge calls keeps accounts.

A call settles, at its end, what has been counted by itself, so that what user
code calls adds nothing to the charge of the call that asked it. By induction
on the depth of nesting every call does nothing by the call around it.

Owns: that reachable worlds are at the end of a trail from a fresh one, with
all calls settled.
-/

namespace TransportBridge

variable {σ α : Type} [Custodian σ] {may : Latitude σ} {world middle after : World σ Mark}

/-! ## Calls -/

namespace BridgeCall

open References

variable {host : Host σ Mark} {call : BridgeCall} {own : List (Moment Mark)} {reply : Reply}
  {outcome : Except Panic Reply}

/-- The record of the call, if that is its reply and it has done that much by
itself. -/
def ended (call : BridgeCall) (own : List (Moment Mark)) (reply : Reply) : Ended :=
  { call, own, reply }

/-- The innermost call has done nothing yet. -/
def Begun (call : BridgeCall) (world : World σ Mark) : Prop :=
  ∃ outer, world.reading.frames = { call } :: outer

/-- Made over the host, the call has kept accounts and fairly so, and its reply
ends a trail. -/
def Settles (may : Latitude σ) (host : Host σ Mark) (call : BridgeCall) (world : World σ Mark) :
    Prop :=
  ∃ own, let record := call.ended own (.ofOutcome (call.perform host world).1)
    world.Accounts own record.charge (call.perform host world).2 ∧ record.Fair ∧
      Trail may world (replied host call world)

omit [Custodian σ] in
theorem closes (begun : call.Begun world) {charge : Counter → Nat}
    (accounts : world.Accounts own charge after) (fair : (call.ended own reply).Fair) :
    after.Closes call reply := by
  obtain ⟨outer, frames⟩ := begun
  refine ⟨{ call, own }, outer, ?_, rfl, fair⟩
  rw [accounts.frames, frames]
  rfl

/-- A call that counts no references settles when it has kept accounts. -/
theorem settles_of_recounts (own : List (Moment Mark)) (hostEvolves : host.Evolves)
    (sound : world.Sound) (begun : call.Begun world)
    (ran : call.perform host world = (outcome, after))
    (recounts : world.Recounts may own (call.ended own (.ofOutcome outcome)).charge after)
    (fair : (call.ended own (.ofOutcome outcome)).Fair)
    (untold : ∀ id, (Mark.replied call (.ofOutcome outcome)).deed? id = none)
    (unopened : call.isOpening = true → Reply.ofOutcome outcome ≠ .done)
    (confirms : ∀ id, call = .socket id .opened → after.Confirms id (.ofOutcome outcome)) :
    call.Settles may host world := by
  have noLapse := perform_noLapse hostEvolves sound call
  rw [ran] at noLapse
  unfold Settles replied
  rw [ran]
  refine ⟨own, recounts.toAccounts, fair, recounts.trail.tail ?_⟩
  exact .ended (closes begun recounts.toAccounts fair) untold noLapse unopened confirms

/-- A call that counts references settles by the grain that its reply ends. -/
theorem settles_of_grain {held : World σ Mark} (own : List (Moment Mark)) (begun : call.Begun world)
    (still : world.Still held) (ran : call.perform host world = (.ok reply, after))
    {charge : Counter → Nat} (charged : (call.ended own reply).charge = charge)
    (acts : after.acts = held.acts ++ own) (all : ∀ moment ∈ own, moment.isOwn = true)
    (counted : ∀ counter, after.metric counter = held.metric counter + charge counter)
    (fair : (call.ended own reply).Fair)
    (grain : after.Closes call reply →
      Grain may held (after.push (.marked (.replied call reply)))) :
    call.Settles may host world := by
  unfold Settles replied
  rw [ran]
  subst charged
  have kept : world.Accounts own (call.ended own reply).charge after := by
    refine .of_acts ?_ all fun counter => ?_
    · rw [acts, still.acts, List.map_nil, List.append_nil]
    · rw [counted, still.counted]
      rfl
  exact ⟨own, kept, fair, .head (.quiet still) (.single (grain (closes begun kept fair)))⟩

omit [Custodian σ] in
theorem fair_of_managed (managed : call.isNative = false) : (call.ended own reply).Fair := by
  rintro handle event rfl
  cases managed

omit [Custodian σ] in
theorem unopened_of_managed (managed : call.isNative = false) (opening : call.isOpening = true) :
    reply ≠ .done := by
  cases call with
  | native => cases managed
  | _ => cases opening

/-- A call that is neither a report nor a confirmation. -/
theorem settles_of_managed (managed : call.isNative = false)
    (unconfirming : ∀ id, call ≠ .socket id .opened) (own : List (Moment Mark))
    (hostEvolves : host.Evolves) (sound : world.Sound) (begun : call.Begun world)
    (ran : call.perform host world = (outcome, after))
    (recounts : world.Recounts may own (call.ended own (.ofOutcome outcome)).charge after)
    (untold : ∀ id, (Mark.replied call (.ofOutcome outcome)).deed? id = none) :
    call.Settles may host world :=
  settles_of_recounts own hostEvolves sound begun ran recounts (fair_of_managed managed) untold
    (unopened_of_managed managed) fun id same => (unconfirming id same).elim

omit [Custodian σ] in
/-- The charge of a call that is neither a report nor an outbound
connection. -/
theorem charge_plain (managed : call.isNative = false)
    (trusted : ∀ reply, (call.ended own reply).gaveUp = false)
    (outcome : Except Panic (Except BridgeError α)) {answer : α → Reply}
    (plain : ∀ result cause, (answer result).isFor cause = false) :
    (call.ended own (.ofOutcome (outcome.map (.ofAnswer answer)))).charge = reported outcome := by
  let record := call.ended own (.ofOutcome (outcome.map (.ofAnswer answer)))
  have counts (counter : Counter) : record.counts counter = true ↔
      counter = .violations ∧ record.reply.isFor BridgeError.isInvariantViolation = true := by
    have unheard : record.call.isNative = false := managed
    cases counter <;> simp [Ended.counts, unheard, record, trusted]
  funext counter
  show (if record.counts counter = true then 1 else 0) = _
  simp only [counts]
  rcases outcome with panic | error | result
  · exact if_neg fun both => Bool.false_ne_true both.2
  · show _ = error.reported counter
    unfold BridgeError.reported Counter.once
    have told : record.reply.isFor BridgeError.isInvariantViolation =
      error.isInvariantViolation := rfl
    rw [told]
    cases error.isInvariantViolation <;> simp
  · have quiet : record.reply.isFor BridgeError.isInvariantViolation = false := plain result _
    exact if_neg fun both => Bool.false_ne_true (quiet.symm.trans both.2)

omit [Custodian σ] in
theorem replyTo_eq (call : Call σ Mark α) (answer : α → Reply) (world : World σ Mark) :
    replyTo call answer world = ((call world).1.map (.ofAnswer answer), (call world).2) := by
  cases ran : call world with
  | mk outcome after =>
      cases outcome with
      | ok result => exact bind_of_ok (show call.run world = _ from ran)
      | error panic => exact bind_of_error (show call.run world = _ from ran)

omit [Custodian σ] in
theorem begun_called (call : BridgeCall) (world : World σ Mark) :
    call.Begun (world.push (.marked (.called call))) :=
  ⟨world.reading.frames, congrArg Reading.frames (world.reading_called call)⟩

/-! ### Each call -/

/-- What a report comes to, and what it has done by itself. -/
theorem native_concludes (hostRecounts : host.Recounts may) (orderly : world.Orderly)
    {handle : Handle} {event : NativeEvent} (begun : Begun (.native handle event) world) :
    ∃ own run after, (BridgeCall.native handle event).perform host world =
        (run.map (.ofAnswer fun _ => .done), after) ∧
      Reply.ofOutcome (run.map (.ofAnswer fun _ => .done)) = .ofRun run ∧
      world.Concludes may handle event own run after ∧
      event.Due handle (own.filterMap Moment.hook?) run := by
  have hears : world.Hears handle event := by
    obtain ⟨outer, frames⟩ := begun
    exact ⟨orderly, _, outer, frames, rfl, rfl, rfl⟩
  obtain ⟨own, concludes, due⟩ := Delivery.dispatch_served hostRecounts hears
  refine ⟨own, _, _, replyTo_eq (Delivery.dispatch host handle event) _ world, ?_, concludes, due⟩
  rcases (Delivery.dispatch host handle event world).1 with panic | error | ⟨⟩ <;> rfl

theorem native_settles (hostRecounts : host.Recounts may) (orderly : world.Orderly)
    {handle : Handle} {event : NativeEvent} (begun : Begun (.native handle event) world) :
    (BridgeCall.native handle event).Settles may host world := by
  obtain ⟨own, run, after, ran, reply, concludes, due⟩ :=
    native_concludes hostRecounts orderly begun
  have charge : (BridgeCall.ended (.native handle event) own (.ofRun run)).charge = _ :=
    charge_report handle event own run
  cases concludes with
  | served serves unopened =>
      refine settles_of_recounts own hostRecounts.evolves orderly.sound begun ran ?_ ?_
        (fun _ => rfl) (fun opening => ?_) nofun
      · rw [reply, charge]
        exact serves.toRecounts
      · rw [reply]
        exact serves.fair due
      · rw [reply, Ne, Reply.ofRun_eq_done]
        cases event with
        | openRequest => exact unopened rfl
        | _ => cases opening
  | opened opening serves genuine told tells =>
      unfold Settles replied
      rw [ran]
      have fair := serves.fair due
      obtain ⟨outer, frames⟩ := begun
      have last := serves.frames.trans (congrArg (Frame.extend own) frames)
      refine ⟨own, ?_, fair, serves.trail.tail ?_⟩
      · rw [reply, charge]
        exact ⟨serves.frames, serves.ended, serves.balance⟩
      · cases event with
        | openRequest address options =>
            exact .opened genuine told ⟨_, outer, last, _, _, _, _, _, rfl, tells⟩
              ⟨_, outer, last, rfl, fair⟩
        | _ => cases opening

theorem openOutbound_settles (hostRecounts : host.Recounts may) (orderly : world.Orderly)
    {address : Address} {framing : Option Framing} {target : TargetId}
    (begun : Begun (.openOutbound address framing target) world) :
    (BridgeCall.openOutbound address framing target).Settles may host world := by
  obtain ⟨own, outcome, after, opened, recounts⟩ :=
    Registration.openOutbound_recounts hostRecounts orderly address framing target
  have ran := replyTo_eq (Registration.openOutbound host address framing target) .peer world
  rw [opened] at ran
  exact settles_of_managed rfl nofun own hostRecounts.evolves orderly.sound begun ran recounts
    fun _ => rfl

theorem adoptInbound_settles (hostRecounts : host.Recounts may) (orderly : world.Orderly)
    {handle : Handle} {target : TargetId} (begun : Begun (.adoptInbound handle target) world) :
    (BridgeCall.adoptInbound handle target).Settles may host world := by
  obtain ⟨own, recounts⟩ : world.Accounted may (Registration.adoptInbound handle target world) :=
    Registration.adoptInbound_accounted orderly handle target
  have ran := replyTo_eq (Registration.adoptInbound handle target) .peer world
  refine settles_of_managed rfl nofun own hostRecounts.evolves orderly.sound begun ran ?_ fun _ => rfl
  rw [charge_plain rfl (fun _ => rfl) _ fun _ _ => rfl]
  exact recounts

/-- A call on a connection that is there, which is held meanwhile. -/
theorem perform_held {entry : EntryId} {registration : Entry} {call : SocketCall}
    {answer : Except Panic (Except BridgeError (Option Nat))} {done : World σ Mark}
    (found : world.entry? entry = some registration)
    (invoked : Socket.invoke host ⟨entry, registration.handle⟩ call (world.engage entry) =
      (answer, done)) (sound : done.Sound) :
    ∃ after, (BridgeCall.socket entry call).perform host world =
      (answer.map (.ofAnswer .ofCount), after) ∧ done.Still after := by
  have ran := replyTo_eq (Socket.invoke host ⟨entry, registration.handle⟩ call) .ofCount
    (world.engage entry)
  rw [invoked] at ran
  obtain ⟨after, held, still⟩ := Custody.holding_still ran sound
  have began : (BridgeCall.socket entry call).perform host world = _ := bind_of_ok rfl
  rw [found] at began
  exact ⟨after, began.trans held, still⟩

theorem ofCount_isFor (count : Option Nat) (cause : BridgeError → Bool) :
    (Reply.ofCount count).isFor cause = false := by
  cases count <;> rfl

variable {entry : EntryId} {registration : Entry}

omit [Custodian σ] in
/-- What a call on a connection adds to the counters. -/
theorem charge_socket {entry : EntryId} (call : SocketCall) (own : List (Moment Mark))
    (outcome : Except Panic (Except BridgeError (Option Nat))) :
    (ended (.socket entry call) own (.ofOutcome (outcome.map (.ofAnswer .ofCount)))).charge =
      reported outcome :=
  charge_plain rfl (fun _ => rfl) outcome ofCount_isFor

omit [Custodian σ] in
theorem asks_of_begun {call : SocketCall} (begun : Begun (.socket entry call) world)
    {asked : EngineCall} (asking : call.engineCall? = some asked) : world.Asks entry asked := by
  obtain ⟨outer, frames⟩ := begun
  exact ⟨_, outer, call, frames, rfl, asking⟩

omit [Custodian σ] in
/-- The reply to a confirmation agrees with what has been done by it. -/
theorem confirms_of_accounts (begun : call.Begun world) {charge : Counter → Nat}
    (accounts : world.Accounts own charge after)
    (heard : own = [] ∨ reply = .done ∨ ∃ panic, reply = .panicked panic)
    (confirmed : reply = .done → .forwarded .opened ∈ after.deeds entry ∨
      (after.life entry).managedReady = true ∨ (after.life entry).state = .opened) :
    after.Confirms entry reply := by
  obtain ⟨outer, frames⟩ := begun
  refine ⟨fun frame innermost => ?_, confirmed⟩
  rw [accounts.frames, frames] at innermost
  obtain rfl := Option.some.inj innermost
  exact heard

theorem opened_settles (hostRecounts : host.Recounts may) (orderly : world.Orderly)
    (found : world.entry? entry = some registration)
    (begun : Begun (.socket entry .opened) world) :
    (BridgeCall.socket entry .opened).Settles may host world := by
  let peer : Peer := ⟨entry, registration.handle⟩
  have engaging : world.Still (world.engage entry) := .engage world entry
  have held := orderly.plain engaging.toPlain
  have genuine : (world.engage entry).Genuine peer := ⟨registration, found, rfl⟩
  obtain ⟨own, outcome, done, opened, recounts, refused, confirmed⟩ :=
    Socket.opened_recounts hostRecounts held genuine (asks_of_begun begun rfl)
  obtain ⟨answer, invoked, charge, heard, returned⟩ : ∃ answer,
      Socket.invoke host peer .opened (world.engage entry) = (answer, done) ∧
      reported outcome = reported answer ∧
      (own = [] ∨ Reply.ofOutcome (answer.map (.ofAnswer .ofCount)) = .done ∨
        ∃ panic, Reply.ofOutcome (answer.map (.ofAnswer .ofCount)) = .panicked panic) ∧
      (Reply.ofOutcome (answer.map (.ofAnswer .ofCount)) = .done → outcome = .ok (.ok ())) := by
    rcases outcome with panic | error | ⟨⟩
    · exact ⟨.error panic, callBind_of_panicked opened, rfl, .inr (.inr ⟨panic, rfl⟩), nofun⟩
    · exact ⟨.ok (.error error), callBind_of_rejected opened, rfl, .inl (refused error rfl), nofun⟩
    · exact ⟨.ok (.ok none), callBind_of_ok opened, rfl, .inr (.inl rfl), fun _ => rfl⟩
  obtain ⟨after, ran, still⟩ := perform_held found invoked (recounts.trail.sound held.sound)
  have kept := (World.Recounts.after_idle (.of_quiet engaging) recounts).then_still still
  refine settles_of_recounts own hostRecounts.evolves orderly.sound begun ran ?_
    (fair_of_managed rfl) (fun _ => ?_) (unopened_of_managed rfl) ?_
  · rw [charge_socket, ← charge]
    exact kept
  · rcases answer with _ | _ | _ | _ <;> rfl
  · rintro id same
    obtain rfl : entry = id := (BridgeCall.socket.inj same).1
    refine confirms_of_accounts begun kept.toAccounts heard fun done => ?_
    rw [still.deeds, still.life]
    exact confirmed (returned done)

/-- Calls that neither confirm nor count references. -/
theorem uncounted_settles (hostRecounts : host.Recounts may) (orderly : world.Orderly)
    {call : SocketCall} (notOpened : call ≠ .opened) (notRetain : call ≠ .retain)
    (notRelease : call ≠ .release) (found : world.entry? entry = some registration)
    (begun : Begun (.socket entry call) world) :
    (BridgeCall.socket entry call).Settles may host world := by
  have engaging : world.Still (world.engage entry) := .engage world entry
  have held := orderly.plain engaging.toPlain
  have genuine : (world.engage entry).Genuine ⟨entry, registration.handle⟩ :=
    ⟨registration, found, rfl⟩
  obtain ⟨own, recounts⟩ := Socket.invoke_accounted hostRecounts held genuine notOpened notRetain
    notRelease fun _ => asks_of_begun begun
  obtain ⟨after, ran, still⟩ := perform_held found (rfl : _ = (_, _))
    (recounts.trail.sound held.sound)
  have unconfirming (id : EntryId) : BridgeCall.socket entry call ≠ .socket id .opened :=
    fun same => notOpened (BridgeCall.socket.inj same).2
  refine settles_of_managed rfl unconfirming own hostRecounts.evolves orderly.sound begun ran ?_
    fun _ => ?_
  · rw [charge_socket]
    exact (World.Recounts.after_idle (.of_quiet engaging) recounts).then_still still
  · cases call <;> first | rfl | contradiction

theorem retain_settles (hostRecounts : host.Recounts may) (orderly : world.Orderly)
    (found : world.entry? entry = some registration)
    (begun : Begun (.socket entry .retain) world) :
    (BridgeCall.socket entry .retain).Settles may host world := by
  let peer : Peer := ⟨entry, registration.handle⟩
  let held := world.engage entry
  have engaging : world.Still held := .engage world entry
  have genuine : held.Genuine peer := ⟨registration, found, rfl⟩
  have heldSound := orderly.sound.plain engaging.toPlain
  cases taken : (held.life entry).retain with
  | ok outcome =>
      obtain ⟨references, next⟩ := outcome
      have invoked : Socket.invoke host peer .retain held =
          (.ok (.ok (some references)), held.setLife entry next) :=
        callBind_of_ok (checked_of_ok taken)
      obtain ⟨after, ran, still⟩ := perform_held found invoked (heldSound.retained taken)
      have charge : (ended (.socket entry .retain) [] (.count references)).charge = 0 :=
        charge_socket .retain [] (.ok (.ok (some references)))
      refine settles_of_grain [] begun engaging ran charge still.acts (List.forall_mem_nil _)
        still.counted (fair_of_managed rfl) fun closes => ?_
      exact .retained genuine taken still closes
  | error refusal =>
      obtain ⟨done, refused, quiet⟩ : Refuses (retain .own peer) _ _ held :=
        checked_refuses taken (Lifecycle.retain_refused taken)
      have invoked : Socket.invoke host peer .retain held = (.ok (.error _), done) :=
        callBind_of_rejected refused
      obtain ⟨after, ran, still⟩ := perform_held found invoked (heldSound.plain quiet.toPlain)
      refine settles_of_managed rfl nofun [] hostRecounts.evolves orderly.sound begun ran ?_ fun _ => rfl
      rw [charge_socket]
      exact .of_quiet ((engaging.after_still quiet).then_still still)

theorem release_settles (orderly : world.Orderly)
    (found : world.entry? entry = some registration)
    (begun : Begun (.socket entry .release) world) :
    (BridgeCall.socket entry .release).Settles may host world := by
  let peer : Peer := ⟨entry, registration.handle⟩
  let held := world.engage entry
  have engaging : world.Still held := .engage world entry
  have genuine : held.Genuine peer := ⟨registration, found, rfl⟩
  have heldSound := orderly.sound.plain engaging.toPlain
  cases taken : (held.life entry).release with
  | ok outcome =>
      have kept := (heldSound.life_held entry).release taken
      obtain ⟨live, _, given⟩ := Lifecycle.release_ok taken
      rw [given] at taken kept
      obtain ⟨done, finished, concluded⟩ := finish_quietly heldSound genuine live kept
      have invoked : Socket.invoke host peer .release held = (.ok (.ok none), done) :=
        callBind_of_ok ((callBind_of_ok (checked_of_ok taken)).trans finished)
      have doneSound : done.Sound :=
        (heldSound.concluded genuine (by rfl) (by rfl) live kept).plain concluded.toPlain
      obtain ⟨after, ran, still⟩ := perform_held found invoked doneSound
      have quiet := concluded.then_still still
      obtain ⟨acts, counted⟩ := quiet.of_concluded
      have charge (own : List (Moment Mark)) :
        (ended (.socket entry .release) own .done).charge = 0 :=
          charge_socket .release own (.ok (.ok none))
      refine settles_of_grain _ begun engaging ran (charge _) acts (Moment.isOwn_hookRan _) counted
        (fair_of_managed rfl) fun closes => ?_
      exact .released genuine taken quiet closes
  | error refusal =>
      obtain ⟨done, refused, quiet⟩ : Refuses (checked .own peer Lifecycle.release)
        (refusal.toError peer.handle) _ held :=
          checked_refuses taken (Lifecycle.release_refused taken)
      have invoked : Socket.invoke host peer .release held =
          (.ok (.error (refusal.toError peer.handle)), done) :=
        callBind_of_rejected (callBind_of_rejected refused)
      obtain ⟨after, ran, still⟩ := perform_held found invoked (heldSound.plain quiet.toPlain)
      have telling := quiet.then_still still
      have charge :
          (ended (.socket entry .release) [] (.rejected (refusal.toError peer.handle))).charge =
          (refusal.toError peer.handle).reported :=
        charge_socket .release [] (.ok (.error (refusal.toError peer.handle)))
      refine settles_of_grain [] begun engaging ran charge telling.acts (List.forall_mem_nil _)
        telling.counted (fair_of_managed rfl) fun closes => ?_
      exact .unreleased genuine taken telling closes

theorem absent_settles (hostRecounts : host.Recounts may) (orderly : world.Orderly)
    {call : SocketCall} (absent : world.entry? entry = none)
    (begun : Begun (.socket entry call) world) :
    (BridgeCall.socket entry call).Settles may host world := by
  have charge : (ended (.socket entry call) [] .absent).charge = 0 := by
    funext counter
    cases counter <;> rfl
  have nothing : world.Recounts may [] (ended (.socket entry call) [] .absent).charge world :=
    charge ▸ .refl world
  refine settles_of_recounts [] hostRecounts.evolves orderly.sound begun (perform_of_absent absent)
    nothing (fair_of_managed rfl) (fun _ => ?_) (unopened_of_managed rfl) fun id _ =>
      confirms_of_accounts begun nothing.toAccounts (.inl rfl) nofun
  cases call <;> simp [Mark.deed?, Reply.ofOutcome]

/-- Every call settles. -/
theorem settles (hostRecounts : host.Recounts may) (orderly : world.Orderly)
    (begun : call.Begun world) : call.Settles may host world := by
  cases call with
  | openOutbound address framing target => exact openOutbound_settles hostRecounts orderly begun
  | adoptInbound handle target => exact adoptInbound_settles hostRecounts orderly begun
  | native handle event => exact native_settles hostRecounts orderly begun
  | socket entry call =>
      cases found : world.entry? entry with
      | none => exact absent_settles hostRecounts orderly found begun
      | some registration =>
          cases call with
          | opened => exact opened_settles hostRecounts orderly found begun
          | retain => exact retain_settles hostRecounts orderly found begun
          | release => exact release_settles orderly found begun
          | _ => exact uncounted_settles hostRecounts orderly nofun nofun nofun found begun

end BridgeCall

/-! ## User code -/

/-- Run in the world, the code rearranges its surroundings as it may. What its
calls do to the world is left open. -/
def UserCode.Within (may : Latitude σ) : UserCode σ α → World σ Mark → Prop
  | .finish _, _ | .unwind _, _ => True
  | .look next, world => (next world).Within may world
  | .rearrange change next, world =>
    may world (change world.surroundings) ∧ next.Within may (world.amid (change world.surroundings))
  | .call _ next, _ => ∀ reply after, (next reply).Within may after

/-- All code that the bridge calls rearranges its surroundings as it may. -/
structure Behaviour.Within (may : Latitude σ) (behaviour : Behaviour σ) : Prop where
  callback : ∀ peer target event world, (behaviour.callback peer target event).Within may world
  createHandle : ∀ address framing world, (behaviour.createHandle address framing).Within may world
  engine : ∀ handle call world, (behaviour.engine handle call).Within may world
  createTarget : ∀ factory handle address options world,
    (behaviour.createTarget factory handle address options).Within may world

omit [Custodian σ] in
/-- Any code may rearrange its surroundings as it likes. -/
theorem UserCode.within_any (code : UserCode σ α) (world : World σ Mark) :
    code.Within (fun _ _ => True) world := by
  induction code generalizing world with
  | finish | unwind => trivial
  | look next inductionHypothesis => exact inductionHypothesis world world
  | rearrange change next inductionHypothesis => exact ⟨trivial, inductionHypothesis _⟩
  | call made next inductionHypothesis => exact fun reply after => inductionHypothesis reply after

omit [Custodian σ] in
theorem Behaviour.within_any (behaviour : Behaviour σ) : behaviour.Within fun _ _ => True where
  callback _ _ _ := UserCode.within_any _
  createHandle _ _ := UserCode.within_any _
  engine _ _ := UserCode.within_any _
  createTarget _ _ _ _ := UserCode.within_any _

section Runs

variable {make : BridgeCall → BridgeM σ Mark Reply}

/-- Surroundings are rearranged. -/
theorem World.Recounts.of_rearranged {surroundings : Surroundings σ}
    (allowed : may world surroundings) : world.Recounts may [] 0 (world.amid surroundings) :=
  .of_grain (.rearranged allowed) (List.append_nil _).symm fun _ => rfl

/-- User code does nothing by the call that asks it, if none of its calls
does. -/
theorem UserCode.run_recounts
    (makes : ∀ call (world : World σ Mark), world.Orderly →
      world.Recounts may [] 0 (make call world).2)
    (code : UserCode σ α) (within : code.Within may world) (orderly : world.Orderly) :
    world.Recounts may [] 0 (code.run make world).2 := by
  induction code generalizing world with
  | finish result => exact .refl world
  | unwind panic => exact .refl world
  | look next inductionHypothesis =>
      have began : (UserCode.look next).run make world = _ :=
        bind_of_ok (rfl : (get : BridgeM σ Mark _) world = (.ok world, world))
      rw [began]
      exact inductionHypothesis world within orderly
  | rearrange change next inductionHypothesis =>
      have rearranged : world.Recounts may [] 0 _ := .of_rearranged within.1
      exact rearranged.then_idle
        (inductionHypothesis within.2 (rearranged.trail.path.orderly orderly))
  | call made next inductionHypothesis =>
      have one := makes made world orderly
      cases ran : make made world with
      | mk outcome after =>
          rw [ran] at one
          cases outcome with
          | error panic =>
              have ended : (UserCode.call made next).run make world = _ := bind_of_error ran
              rw [ended]
              exact one
          | ok reply =>
              have goes : (UserCode.call made next).run make world = _ := bind_of_ok ran
              rw [goes]
              exact one.then_idle (inductionHypothesis reply (within reply after)
                (one.trail.path.orderly orderly))

theorem Behaviour.host_recounts {behaviour : Behaviour σ} (within : behaviour.Within may)
    (evolves : (behaviour.host make).Evolves)
    (makes : ∀ call (world : World σ Mark), world.Orderly →
      world.Recounts may [] 0 (make call world).2) : (behaviour.host make).Recounts may where
  evolves := evolves
  callback orderly _ _ _ := UserCode.run_recounts makes _ (within.callback _ _ _ _) orderly
  createHandle orderly _ _ := UserCode.run_recounts makes _ (within.createHandle _ _ _) orderly
  engine orderly _ _ := UserCode.run_recounts makes _ (within.engine _ _ _) orderly
  createTarget orderly _ _ _ _ :=
    UserCode.run_recounts makes _ (within.createTarget _ _ _ _ _) orderly

/-- What a call does is settled when it has been replied to. -/
theorem BridgeCall.replied_recounts {host : Host σ Mark} (hostRecounts : host.Recounts may)
    (orderly : world.Orderly) (call : BridgeCall) :
    world.Recounts may [] 0 (replied host call (world.push (.marked (.called call)))) := by
  obtain ⟨own, accounts, _, trail⟩ :=
    settles hostRecounts (orderly.push _) (begun_called call world)
  exact ⟨accounts.settled rfl, trail.head (.begun call)⟩

/-- Every call does nothing by the call that it is made in, by induction on the
depth of nesting. -/
theorem BridgeCall.make_recounts {behaviour : Behaviour σ} (within : behaviour.Within may)
    (depth : Nat) (call : BridgeCall) (orderly : world.Orderly) :
    world.Recounts may [] 0 (call.make behaviour depth world).2 := by
  induction depth generalizing call world with
  | zero => exact .refl world
  | succ depth inductionHypothesis =>
      have hostRecounts : (behaviour.host (make behaviour depth)).Recounts may :=
        behaviour.host_recounts within (behaviour.host_make_evolves depth)
          fun call world orderly => inductionHypothesis call orderly
      rw [make_succ]
      exact replied_recounts hostRecounts orderly call

/-- So does whatever user code the bridge calls. -/
theorem Behaviour.host_make_recounts {behaviour : Behaviour σ} (within : behaviour.Within may)
    (depth : Nat) : (behaviour.host (BridgeCall.make behaviour depth)).Recounts may :=
  behaviour.host_recounts within (behaviour.host_make_evolves depth)
    fun call _ orderly => call.make_recounts within depth orderly

end Runs

namespace Reachable

/-- All calls have been settled in a reachable world. -/
theorem recounts (reached : Reachable world) : ∃ config surroundings,
    (World.fresh config surroundings : World σ Mark).Recounts (fun _ _ => True) [] 0 world := by
  induction reached with
  | fresh config surroundings => exact ⟨config, surroundings, .refl _⟩
  | rearranged _ surroundings inductionHypothesis =>
      obtain ⟨config, before, recounts⟩ := inductionHypothesis
      exact ⟨config, before, recounts.then_idle (.of_rearranged trivial)⟩
  | called _ behaviour depth call inductionHypothesis =>
      obtain ⟨config, before, recounts⟩ := inductionHypothesis
      have orderly := recounts.trail.path.orderly (.fresh config before)
      exact ⟨config, before,
        recounts.then_idle (call.make_recounts behaviour.within_any depth orderly)⟩

end Reachable

end TransportBridge
