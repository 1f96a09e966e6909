import TransportBridge.Proofs.HostFrames
import TransportBridge.Proofs.Answers

/-!
Contract: what comes of the calls that a frame does not keep.

A report of received bytes tells its target once if it is accepted, and nobody if
it is rejected. A write does the same to the engine. What the one call does to
the host's state is a move; the frame is kept before it and after it.

Owns: moves, the rules of making one, and that reports of received bytes and
writes make theirs.
-/

namespace TransportBridge

/-! ## Calls with one end -/

section Ends

variable {σ μ α β : Type}

/-- The call is granted, or panics. -/
def Yielding (call : Call σ μ α) : Prop :=
  ∀ world error after, call world ≠ (.ok (.error error), after)

/-- The call is rejected, or panics. -/
def Unyielding (call : Call σ μ α) : Prop :=
  ∀ world result after, call world ≠ (.ok (.ok result), after)

theorem Yielding.pure (result : α) : Yielding (pure result : Call σ μ α) :=
  fun _ _ _ => nofun

theorem Yielding.effect (body : BridgeM σ μ α) : Yielding (effect body) :=
  fun _ _ _ => effect_not_rejected

theorem Unyielding.throw (error : BridgeError) : Unyielding (throw error : Call σ μ α) :=
  fun _ _ _ => nofun

theorem Unyielding.effectBind {first : BridgeM σ μ α} {next : α → Call σ μ β}
    (two : ∀ result, Unyielding (next result)) : Unyielding (effect first >>= next) := by
  intro world result after ran
  obtain ⟨found, middle, _, ended⟩ := effectBind_ok ran
  exact two found middle result after ended

theorem Unyielding.reject (book : Book) (error : BridgeError) :
    Unyielding (References.reject book error : Call σ μ α) :=
  .effectBind fun _ => .throw _

theorem Unyielding.ensuring {body : Call σ μ α} (never : Unyielding body)
    (cleanup : BridgeM σ μ Unit) : Unyielding (body.ensuring cleanup) := by
  intro world result after ran
  obtain ⟨middle, began, -⟩ := ensuring_ok ran
  exact never world result middle began

end Ends

namespace HostFrame

variable {σ μ α β : Type} [Custodian σ] {frame : HostFrame σ} {move : σ → σ → Prop}

/-- The move is made once, and otherwise the frame is kept. -/
def Once (frame : HostFrame σ) (move : σ → σ → Prop) (host after : σ) : Prop :=
  ∃ ready done, frame.Rel host ready ∧ move ready done ∧ frame.Rel done after

/-- What becomes of the host's state, by how a call ends: the move is made if the
call is granted, and the frame is kept if it is rejected. -/
def Made (frame : HostFrame σ) (move : σ → σ → Prop) :
    Except Panic (Except BridgeError α) → σ → σ → Prop
  | .ok (.ok _), host, after => frame.Once move host after
  | .ok (.error _), host, after => frame.Rel host after
  | .error _, _, _ => True

theorem Made.after {outcome : Except Panic (Except BridgeError α)} {host middle last : σ}
    (made : frame.Made move outcome middle last) (kept : frame.Rel host middle) :
    frame.Made move outcome host last := by
  rcases outcome with panic | error | result
  · exact trivial
  · exact frame.trans kept made
  · obtain ⟨ready, done, led, moved, left⟩ := made
    exact ⟨ready, done, frame.trans kept led, moved, left⟩

theorem Made.andThen {outcome : Except Panic (Except BridgeError α)} {host middle last : σ}
    (made : frame.Made move outcome host middle) (kept : frame.Rel middle last) :
    frame.Made move outcome host last := by
  rcases outcome with panic | error | result
  · exact trivial
  · exact frame.trans made kept
  · obtain ⟨ready, done, led, moved, left⟩ := made
    exact ⟨ready, done, led, moved, frame.trans left kept⟩

/-- The move has been made, and what follows keeps the frame and is granted. -/
theorem Made.onward {result : α} {next : Call σ μ β} {host : σ} {middle : World σ μ}
    (made : frame.Made move (.ok (.ok result) : Except Panic (Except BridgeError α)) host
      middle.host)
    (kept : frame.Spares next) (yields : Yielding next) :
    frame.Made move (next middle).1 host (next middle).2.host := by
  cases ran : next middle with
  | mk last after =>
      rcases last with panic | error | final
      · exact trivial
      · exact absurd ran (yields middle error after)
      · exact Made.andThen made ((kept middle).along ran)

/-- From this world, the call makes the move if it is granted. -/
def Makes (frame : HostFrame σ) (move : σ → σ → Prop) (call : Call σ μ α)
    (world : World σ μ) : Prop :=
  frame.Made move (call world).1 world.host (call world).2.host

/-- Wherever it does not panic, the computation makes the move. -/
def Performs (frame : HostFrame σ) (move : σ → σ → Prop) (body : BridgeM σ μ α) : Prop :=
  ∀ world result after, body world = (.ok result, after) →
    frame.Once move world.host after.host

theorem Performs.of_move {body : BridgeM σ μ α}
    (moves : ∀ world result after, body world = (.ok result, after) → move world.host after.host) :
    frame.Performs move body :=
  fun world result after ran =>
    ⟨world.host, after.host, frame.refl _, moves world result after ran, frame.refl _⟩

theorem Performs.after {first : BridgeM σ μ α} {next : α → BridgeM σ μ β}
    (kept : frame.Keeps first) (performs : ∀ result, frame.Performs move (next result)) :
    frame.Performs move (first >>= next) := by
  intro world last after ran
  obtain ⟨result, middle, began, ended⟩ := bind_ok ran
  obtain ⟨ready, done, came, moved, left⟩ := performs result middle last after ended
  exact ⟨ready, done, frame.trans ((kept world).along began) came, moved, left⟩

theorem Performs.andThen {first : BridgeM σ μ α} {next : α → BridgeM σ μ β}
    (performs : frame.Performs move first) (kept : ∀ result, frame.Keeps (next result)) :
    frame.Performs move (first >>= next) := by
  intro world last after ran
  obtain ⟨result, middle, began, ended⟩ := bind_ok ran
  obtain ⟨ready, done, led, moved, left⟩ := performs world result middle began
  exact ⟨ready, done, led, moved, frame.trans left ((kept result middle).along ended)⟩

theorem Performs.ensuring {body : BridgeM σ μ α} {cleanup : BridgeM σ μ Unit}
    (performs : frame.Performs move body) (cleaned : frame.Keeps cleanup) :
    frame.Performs move (ensuring body cleanup) := by
  intro world result after ran
  obtain ⟨middle, began, ended⟩ := ensuring_ok ran
  obtain ⟨ready, done, led, moved, left⟩ := performs world result middle began
  exact ⟨ready, done, led, moved, frame.trans left ((cleaned middle).along ended)⟩

namespace Makes

variable {world : World σ μ}

theorem of_unyielding {call : Call σ μ α} (never : Unyielding call) (kept : frame.Spares call) :
    frame.Makes move call world := by
  unfold Makes
  cases ran : call world with
  | mk outcome after =>
      rcases outcome with panic | error | result
      · exact trivial
      · exact (kept world).along ran
      · exact absurd ran (never world result after)

theorem throw (error : BridgeError) : frame.Makes move (throw error : Call σ μ α) world :=
  .of_unyielding (.throw error) (.throw error)

theorem look {next : World σ μ → Call σ μ α} (makes : frame.Makes move (next world) world) :
    frame.Makes move (get >>= next) world :=
  makes

/-- Something comes before that keeps the frame. -/
theorem within {first : BridgeM σ μ α} {next : α → BridgeM σ μ (Except BridgeError β)}
    (kept : frame.Keeps first) (makes : ∀ result middle, first world = (.ok result, middle) →
      frame.Makes move (ExceptT.mk (next result)) middle) :
    frame.Makes move (ExceptT.mk (first >>= next)) world := by
  unfold Makes
  show frame.Made move ((first >>= next) world).1 world.host ((first >>= next) world).2.host
  cases began : first world with
  | mk outcome middle =>
      cases outcome with
      | error panic =>
          rw [bind_of_error began]
          exact trivial
      | ok result =>
          rw [bind_of_ok began]
          exact .after (makes result middle began) ((kept world).along began)

theorem afterCall {first : Call σ μ α} {next : α → Call σ μ β} (kept : frame.Spares first)
    (makes : ∀ result middle, first world = (.ok (.ok result), middle) →
      frame.Makes move (next result) middle) :
    frame.Makes move (first >>= next) world := by
  refine .within kept fun answer middle ran => ?_
  cases answer with
  | error error => exact .throw error
  | ok result => exact makes result middle ran

theorem afterEffect {first : BridgeM σ μ α} {next : α → Call σ μ β} (kept : frame.Keeps first)
    (makes : ∀ result middle, first world = (.ok result, middle) →
      frame.Makes move (next result) middle) :
    frame.Makes move (effect first >>= next) world :=
  .afterCall (.effect kept) fun result middle ran => makes result middle (effect_ok ran)

/-- The world is set up otherwise first. -/
theorem changing {step : World σ μ → World σ μ} (same : (step world).host = world.host)
    {body : Call σ μ α} (makes : frame.Makes move body (step world)) :
    frame.Makes move (ExceptT.mk (modify step >>= fun _ => body.run)) world := by
  unfold Makes at makes
  rw [same] at makes
  exact makes

/-- The move is made in the course of what cannot be rejected. -/
theorem yielding {body : BridgeM σ μ α} (performs : frame.Performs move body) :
    frame.Makes move (effect body) world := by
  unfold Makes
  cases ran : body world with
  | mk outcome after =>
      cases outcome with
      | error panic =>
          rw [effect_of_error ran]
          exact trivial
      | ok result =>
          rw [effect_of_ok ran]
          exact performs world result after ran

/-- Something comes after that keeps the frame and is granted. -/
theorem andThen {first : Call σ μ α} {next : α → Call σ μ β} (makes : frame.Makes move first world)
    (kept : ∀ result, frame.Spares (next result)) (yields : ∀ result, Yielding (next result)) :
    frame.Makes move (first >>= next) world := by
  unfold Makes at makes ⊢
  cases began : first world with
  | mk outcome middle =>
      rw [began] at makes
      rcases outcome with panic | error | result
      · rw [callBind_of_panicked began]
        exact trivial
      · rw [callBind_of_rejected began]
        exact makes
      · rw [callBind_of_ok began]
        exact Made.onward makes (kept result) (yields result)

/-- The answer is there, and what follows it keeps the frame. -/
theorem answered {first : Call σ μ α} {next : Except BridgeError α → Call σ μ β}
    (makes : frame.Makes move first world) (kept : ∀ answer, frame.Spares (next answer))
    (yields : ∀ result, Yielding (next (.ok result)))
    (passes : ∀ error, Unyielding (next (.error error))) :
    frame.Makes move (effect first.run >>= next) world := by
  unfold Makes at makes ⊢
  cases began : first world with
  | mk outcome middle =>
      rw [began] at makes
      rcases outcome with panic | error | result
      · rw [effectBind_of_error (show first.run world = _ from began)]
        exact trivial
      · rw [effectBind_of_ok (show first.run world = _ from began)]
        have made : frame.Makes move (next (.error error)) middle :=
          .of_unyielding (passes error) (kept _)
        exact .after made makes
      · rw [effectBind_of_ok (show first.run world = _ from began)]
        exact Made.onward makes (kept (.ok result)) (yields result)

theorem ensuring {body : Call σ μ α} {cleanup : BridgeM σ μ Unit}
    (makes : frame.Makes move body world) (cleaned : frame.Keeps cleanup) :
    frame.Makes move (body.ensuring cleanup) world := by
  unfold Makes at makes ⊢
  show frame.Made move (TransportBridge.ensuring body.run cleanup world).1 world.host
    (TransportBridge.ensuring body.run cleanup world).2.host
  unfold TransportBridge.ensuring
  cases began : body.run world with
  | mk outcome middle =>
      rw [show body world = _ from began] at makes
      cases outcome with
      | error panic => exact trivial
      | ok answer =>
          cases done : cleanup middle with
          | mk ended last =>
              have left := (cleaned middle).along done
              cases ended with
              | error panic => simp only [done]; exact trivial
              | ok nothing => simpa only [done] using Made.andThen makes left

end Makes

/-! ## Received bytes -/

section Receiving

open Custody Delivery Registration References

variable {world : World σ μ} {host : Host σ μ} {peer : Peer} {target : TargetId}
  {event : SocketEvent}

theorem holding_makes (entry : EntryId) {body : Call σ μ α}
    (makes : frame.Makes move body { world with engaged := entry :: world.engaged }) :
    frame.Makes move (Call.holding entry body) world :=
  .ensuring (.changing rfl makes) (disengage_keeps entry)

theorem holdingTarget_makes (target : TargetId) {body : Call σ μ α}
    (makes : frame.Makes move body { world with lent := target :: world.lent }) :
    frame.Makes move (ExceptT.mk (holdingTarget target body.run)) world :=
  .ensuring (.changing rfl makes) (giveBack_keeps target)

theorem withAttachedContext_makes (operation : String) {thunk : RuntimeContext → BridgeM σ μ α}
    (performs : ∀ context, frame.Performs move (thunk context)) :
    frame.Makes move (ExceptT.mk (Attachment.withAttachedContext operation thunk)) world := by
  refine .within (attach_keeps operation) fun attached _ _ => ?_
  cases attached with
  | error error => exact .throw error
  | ok held =>
      refine .within (.aside fun _ => rfl) fun fault _ _ => ?_
      cases fault with
      | true =>
          exact .within (fail_keeps _ _) fun error _ _ => .within (drop_keeps held) fun _ _ _ =>
            .throw error
      | false => exact .yielding (.ensuring (performs _) (drop_keeps held))

theorem invoke_performs (tells : frame.Performs move (host.callback peer target event)) :
    frame.Performs move (invoke host peer target event) :=
  .after (.aside fun _ => rfl) fun _ => .after (.witness _) fun _ => tells

theorem telling_makes (tells : frame.Performs move (host.callback peer target event)) :
    frame.Makes move (ExceptT.mk (Attachment.withAttachedContext event.name fun _ =>
      Delivery.invoke host peer target event)) world :=
  withAttachedContext_makes _ fun _ => invoke_performs tells

theorem deliver_makes (tells : frame.Performs move (host.callback peer target event)) :
    frame.Makes move (deliver host peer target event) world := by
  unfold deliver
  refine .look ?_
  refine Makes.afterEffect (Keeps.note _) fun _ middle _ => ?_
  refine Makes.answered (holdingTarget_makes target (telling_makes tells)) ?_ ?_ ?_
  · intro answer
    cases answer with
    | ok nothing => exact .effect (.count _ _)
    | error error => exact .effectBind (.bind (.count _ _) fun _ => .note _) fun _ => .throw _
  · exact fun _ => .effect _
  · exact fun error => .effectBind fun _ => .throw error

theorem deliverOr_makes (tells : frame.Performs move (host.callback peer target event))
    {undo : BridgeM σ μ Unit} (undone : frame.Keeps undo) :
    frame.Makes move (deliverOr host peer target event undo) world := by
  refine .answered (deliver_makes tells) ?_ ?_ ?_
  · intro answer
    cases answer with
    | ok nothing => exact .pure ()
    | error error => exact .effectBind undone fun _ => .throw _
  · exact fun _ => .pure ()
  · exact fun error => .effectBind fun _ => .throw error

omit [Custodian σ] in
/-- Received bytes are entered for the target that is pinned. -/
theorem pin_of_enterReceived {byteCount : Nat} {retained : Option (NativeBuffer Hook)}
    {after : World σ μ}
    (ran : enterReceived peer byteCount retained world = (.ok (.ok target), after)) :
    (world.life peer.entry).pin = some target := by
  cases taken : (world.life peer.entry).acceptReceived byteCount retained with
  | error refusal =>
      have tried : attempt peer.entry (Lifecycle.acceptReceived byteCount retained) world =
          (.ok (.error refusal), world) := by
        unfold attempt
        rw [taken]
      have rest := (effectBind_of_ok tried).symm.trans ran
      exact absurd rest (Unyielding.effectBind (fun _ => .reject _ _) _ _ _)
  | ok accepted =>
      have tried : attempt peer.entry (Lifecycle.acceptReceived byteCount retained) world =
          (.ok (.ok accepted.1), world.setLife peer.entry accepted.2) := by
        unfold attempt
        rw [taken]
      have rest := (effectBind_of_ok tried).symm.trans ran
      cases rest
      exact (Lifecycle.acceptReceived_ok taken).2.1

omit [Custodian σ] in
/-- A handle that is found is found as it is. -/
theorem lookup_found {handle : Handle} {kind : EventKind} {after : World σ μ}
    (ran : lookup handle kind world = (.ok (.ok peer), after)) :
    world.peer? handle = some peer ∧ after = world := by
  have began : lookup handle kind world = _ := callBind_of_ok rfl
  rw [began] at ran
  cases known : world.peer? handle with
  | none =>
      rw [known] at ran
      exact absurd ran (Unyielding.effectBind (fun _ => .throw _) _ _ _)
  | some other =>
      rw [known] at ran
      cases ran
      exact ⟨rfl, rfl⟩

/-- Whoever is told of the bytes makes the move. -/
theorem onReceived_makes {handle : Handle} {data : NativeBuffer Hook}
    (tells : ∀ peer target, world.peer? handle = some peer →
      (world.life peer.entry).pin = some target →
      frame.Performs move (host.callback peer target (.received (data.data.getD [])))) :
    frame.Makes move (onReceived host handle data) world := by
  refine Makes.afterEffect (lookup_spares _ _) fun answer middle ran => ?_
  cases answer with
  | error error =>
      exact .of_unyielding (.ensuring (.throw _) _) (thenDropping_spares _ (.throw _))
  | ok peer =>
      obtain ⟨known, rfl⟩ := lookup_found ran
      refine holding_makes _ ?_
      cases taken : data.transfer with
      | error violation =>
          exact .of_unyielding (.ensuring (.reject _ _) _)
            (thenDropping_spares _ (reject_spares _ _))
      | ok given =>
          obtain ⟨bytes, spent⟩ := given
          refine Makes.afterCall (enterReceived_spares _ _ _) fun target middle ran => ?_
          have pinned := pin_of_enterReceived ran
          have told := tells peer target known pinned
          rw [NativeBuffer.data_of_transfer taken] at told
          exact deliverOr_makes told (.bind (.change _ _) fun _ => .optionForM .dropBuffer _)

/-- The frame is kept if whoever is told of the bytes keeps it. -/
theorem onReceived_keepsAt {handle : Handle} {data : NativeBuffer Hook}
    (tells : ∀ peer target, world.peer? handle = some peer →
      (world.life peer.entry).pin = some target →
      frame.Keeps (host.callback peer target (.received (data.data.getD [])))) :
    frame.KeepsAt world (onReceived host handle data).run := by
  refine KeepsAt.callBind (Spares.effect (lookup_spares _ _) world) fun answer middle ran => ?_
  cases answer with
  | error error => exact thenDropping_spares _ (.throw _) _
  | ok peer =>
      obtain ⟨known, rfl⟩ := lookup_found (effect_ok ran)
      refine holding_keepsAt _ ?_
      cases taken : data.transfer with
      | error violation => exact thenDropping_spares _ (reject_spares _ _) _
      | ok given =>
          obtain ⟨bytes, spent⟩ := given
          refine KeepsAt.callBind (enterReceived_spares _ _ _ _) fun target middle ran => ?_
          have pinned := pin_of_enterReceived ran
          have told := tells peer target known pinned
          rw [NativeBuffer.data_of_transfer taken] at told
          exact deliverOr_spares told (.bind (.change _ _) fun _ => .optionForM .dropBuffer _) _

end Receiving

/-! ## Writes -/

section Writing

open References

variable {world : World σ μ} {host : Host σ μ} {peer : Peer}

/-- A write makes the move that the engine makes when it is told of it. -/
theorem write_makes {data : Bytes}
    (tells : frame.Performs move (host.engine peer.handle (.write data))) :
    frame.Makes move (Socket.invoke host peer (.write data)) world := by
  have forwards : frame.Performs move (Socket.forwardFor host peer (.write data)) :=
    .after (.witness _) fun _ => tells
  refine Makes.andThen ?_ (fun _ => .pure none) fun _ => .pure none
  refine Makes.look ?_
  exact Makes.afterCall (checked_spares _ _ _) fun _ _ _ => .yielding forwards

end Writing

end HostFrame

end TransportBridge
