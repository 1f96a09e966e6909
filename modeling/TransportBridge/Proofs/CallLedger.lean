import TransportBridge.Proofs.Attained
import TransportBridge.Proofs.RunAccounts

/-!
Contract: the counters of calls agree with the replies that the callers got.

Every report that is answered has told its target itself, once and as it was
given, and every report that is rejected has told nobody. Over a whole run each
counter is the number of replies that it is there to count. One call is counted
although it does not return: an outbound connection whose handle cannot be
registered has broken an invariant, and is still to give the handle back when
the engine panics over that.
-/

namespace TransportBridge

variable {σ : Type} [Custodian σ] {world asking : World σ Mark}

/-- Attained worlds are orderly. -/
theorem Attained.orderly (attained : Attained world) : world.Orderly := by
  obtain ⟨config, surroundings, path⟩ := attained.path
  exact path.orderly (.fresh config surroundings)

/-- The reply to a report is true to what the report has done by itself: an
answer comes after the target of the handle has been told, by one callback, and
a rejection after nobody has been told. -/
structure Ended.TrueTo (record : Ended) (before : World σ Mark) (handle : Handle)
    (event : NativeEvent) (after : World σ Mark) : Prop where
  call : record.call = .native handle event
  done : record.reply = .done → before.Told handle event record.own after
  rejected : ∀ error, record.reply = .rejected error → record.callbacks = []

/-- A report that is made anywhere leaves a record, whose reply is true to
it. -/
theorem BridgeCall.native_answered (behaviour : Behaviour σ) (depth : Nat) (handle : Handle)
    (event : NativeEvent) (orderly : asking.Orderly) :
    let made := (BridgeCall.native handle event).make behaviour (depth + 1) asking
    ∃ record, made.1 = .ok record.reply ∧ made.2.reading.ended.getLast? = some record ∧
      record.TrueTo asking handle event made.2 := by
  let host := behaviour.host (make behaviour depth)
  have hostRecounts : host.Recounts fun _ _ => True :=
    Behaviour.host_make_recounts behaviour.within_any depth
  have begun := begun_called (.native handle event) asking
  have calling : asking.Plain (asking.push (.marked (.called (.native handle event)))) :=
    .push (fun _ => rfl) rfl
  obtain ⟨own, run, after, ran, reply, concludes, _⟩ :=
    native_concludes hostRecounts (orderly.push _) begun
  have made : make behaviour (depth + 1) (.native handle event) asking = (.ok (.ofRun run),
      after.push (.marked (.replied (.native handle event) (.ofRun run)))) := by
    refine (make_runs behaviour depth (.native handle event) asking).trans ?_
    unfold replied
    rw [ran, reply]
  obtain ⟨outer, frames⟩ := begun
  have last : after.reading.frames = { call := .native handle event, own } :: outer := by
    rw [concludes.accounts.frames, frames]
    rfl
  have replied := World.reading_replied last (.native handle event) (.ofRun run)
  refine ⟨{ call := .native handle event, own, reply := .ofRun run }, ?_, ?_, rfl, ?_, ?_⟩
  · rw [made]
  · rw [made, replied, List.getLast?_concat]
  · intro done
    obtain rfl := Reply.ofRun_eq_done.mp done
    rcases concludes.told (orderly.sound.plain calling) nofun with
      ⟨peer, target, attached, told, reaches⟩ | ⟨_, panic, panicked⟩
    · rw [made]
      exact ⟨peer, target, attached, told, reaches.named, (reaches.after_plain calling).stands,
        reaches.found⟩
    · cases panicked
  · intro error rejected
    rcases run with panic | refusal | ⟨⟩
    · cases rejected
    · exact concludes.rejected rfl
    · cases rejected

namespace Reachable

/-- Wherever a report is made in a run, its reply is true to what it has done by
itself, and each counter is at any time what there is to count among the calls
that have ended. -/
theorem ledger_balances (attained : Attained asking) (reached : Reachable world) :
    (∀ (behaviour : Behaviour σ) depth handle event,
      let made := (BridgeCall.native handle event).make behaviour (depth + 1) asking
      ∃ record, made.1 = .ok record.reply ∧ made.2.reading.ended.getLast? = some record ∧
        record.TrueTo asking handle event made.2) ∧
    ∀ counter, world.metric counter = world.tally counter := by
  refine ⟨fun behaviour depth handle event =>
    BridgeCall.native_answered behaviour depth handle event attained.orderly, fun counter => ?_⟩
  obtain ⟨config, surroundings, recounts⟩ := reached.recounts
  have balance := recounts.balance counter
  have uncounted : (World.fresh config surroundings : World σ Mark).metric counter = 0 := by
    cases counter <;> rfl
  have unmade : (World.fresh config surroundings : World σ Mark).tally counter = 0 := rfl
  rw [uncounted, unmade, Pi.zero_apply] at balance
  omega

/-- A handle is reported on before it is bound and after; the engine comes up
with the same handle for an outbound connection, and panics when it gets it
back. -/
def givenBack : World Bystander Mark :=
  let behaviour : Behaviour Bystander := { Bystander.answering fun _ => .finish () with
    createHandle := fun _ _ => .finish (.ok Bystander.handle)
    engine := fun _ _ => .unwind .other }
  behaviour.inTurn 1 [.native Bystander.handle (.writeCompleted 1),
    .adoptInbound Bystander.handle ⟨0⟩,
    .native Bystander.handle (.openRequest ⟨"wss", "x", 443, "/"⟩ (.transferable [])),
    .native Bystander.handle (.writeCompleted 1),
    .openOutbound ⟨"wss", "x", 443, "/"⟩ none ⟨1⟩] Bystander.start

/-- The counters after that run, and one more report, which is told of. -/
theorem ledger_balances_of_given_back :
    (∃ own after, givenBack.Told Bystander.handle (.received (.borrowed [1, 2])) own after) ∧
    givenBack.metric .dispatched = 1 ∧ givenBack.metric .dropped = 1 ∧
      givenBack.metric .violations = 2 ∧ givenBack.metric .attachFailures = 0 := by
  have reached : Reachable givenBack := Bystander.reachable_inTurn _ _ _
  obtain ⟨answered, balances⟩ := ledger_balances reached.attained reached
  have returns : ((BridgeCall.native Bystander.handle (.received (.borrowed [1, 2]))).make
      (Bystander.answering fun _ => .finish ()) 1 givenBack).1.toOption = some .done := by
    decide +kernel
  obtain ⟨record, reply, _, trueTo⟩ := answered (Bystander.answering fun _ => .finish ()) 0
    Bystander.handle (.received (.borrowed [1, 2]))
  rw [reply] at returns
  have told := trueTo.done (Option.some.inj returns)
  refine ⟨⟨_, _, told⟩, ?_⟩
  simp only [balances]
  decide +kernel

/-- The last violation is counted for a call that has not returned. -/
theorem violation_of_panicked_call :
    Reachable givenBack ∧
    givenBack.reading.ended.map (·.reply) =
      [.rejected (.unknownHandle Bystander.handle), .peer ⟨⟨0⟩, Bystander.handle⟩, .done,
        .rejected (.invariantViolation (some Bystander.handle) (.completionExceeds 1 0)),
        .panicked .other] ∧
    givenBack.metric .violations ≠ givenBack.reading.ended.countP fun ended =>
      ended.reply.isFor BridgeError.isInvariantViolation :=
  ⟨Bystander.reachable_inTurn _ _ _, by decide +kernel, by decide +kernel⟩

end Reachable

end TransportBridge
