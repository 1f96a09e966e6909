import TransportBridge.Proofs.RunPaths

/-!
Contract: computations of the bridge that look neither back nor at the host.

A past is what was recorded before: moments of the trace, and counts in the
bridge's own ledger. A view shows a world with another past before its own, and
with another host in the place of its own. Of two runs from a world and from a
view of it, the second follows the first: it ends in the same way, and what it
records is the same.

Owns: pasts and views, and that every computation of the bridge that calls no
host follows itself.
-/

namespace TransportBridge

variable {σ τ α β : Type}

/-! ## Pasts -/

/-- What has been recorded before. -/
structure Past where
  trace : Array (Moment Mark) := #[]
  metrics : Metrics := {}

def Metrics.since (earlier metrics : Metrics) : Metrics where
  registered := earlier.registered + metrics.registered
  disposed := earlier.disposed + metrics.disposed
  dispatched := earlier.dispatched + metrics.dispatched
  dropped := earlier.dropped + metrics.dropped
  invariantViolations := earlier.invariantViolations + metrics.invariantViolations
  attachFailures := earlier.attachFailures + metrics.attachFailures

/-- The change adds to the counters and does not look at them. -/
def Metrics.Adds (change : Metrics → Metrics) : Prop :=
  ∀ earlier metrics : Metrics, change (earlier.since metrics) = earlier.since (change metrics)

/-- The world with another past before its own. -/
def World.preceded (world : World σ Mark) (past : Past) : World σ Mark :=
  { world with
    own := { world.own with metrics := past.metrics.since world.own.metrics }
    trace := past.trace ++ world.trace }

theorem World.preceded_nothing (world : World σ Mark) : world.preceded {} = world := by
  obtain ⟨_, _, _, _, ⟨_, _⟩, _, _, _, _, _, _⟩ := world
  simp [preceded, Metrics.since]

/-! ## Views -/

/-- Another past, and another host that holds the same. -/
structure View (σ τ : Type) [Custodian σ] [Custodian τ] where
  past : Past := {}
  host : σ → τ
  knows (keeper : σ) : Custodian.knows (host keeper) = Custodian.knows keeper
  forget (target : TargetId) (keeper : σ) : Custodian.forget target (host keeper) =
    ((Custodian.forget target keeper).1, host (Custodian.forget target keeper).2)

/-- The same host, with another past. -/
def Past.view [Custodian σ] (past : Past) : View σ σ where
  past := past
  host := id
  knows _ := rfl
  forget _ _ := rfl

variable [Custodian σ] [Custodian τ]

/-- The world as the view shows it. -/
def World.through (world : World σ Mark) (view : View σ τ) : World τ Mark :=
  { world.preceded view.past with host := view.host world.host }

/-- The same end, as the view shows it. -/
def View.upon (view : View σ τ) (ended : α × World σ Mark) : α × World τ Mark :=
  (ended.1, ended.2.through view)

/-- From the world as the view shows it, the other computation ends as the one
does. -/
def Follows (view : View σ τ) (one : BridgeM σ Mark α) (other : BridgeM τ Mark α)
    (world : World σ Mark) : Prop :=
  other (world.through view) = view.upon (one world)

/-- Neither computation sees what the view changes. -/
def Oblivious (view : View σ τ) (one : BridgeM σ Mark α) (other : BridgeM τ Mark α) : Prop :=
  ∀ world, Follows view one other world

/-! ## Sequencing -/

namespace Follows

variable {view : View σ τ} {world : World σ Mark}

theorem bind {first : BridgeM σ Mark α} {first' : BridgeM τ Mark α}
    {next : α → BridgeM σ Mark β} {next' : α → BridgeM τ Mark β}
    (one : Follows view first first' world)
    (two : ∀ result middle, first world = (.ok result, middle) →
      Follows view (next result) (next' result) middle) :
    Follows view (first >>= next) (first' >>= next') world := by
  unfold Follows at one ⊢
  cases ran : first world with
  | mk outcome middle =>
      rw [ran] at one
      cases outcome with
      | error panic =>
          rw [bind_of_error ran]
          exact bind_of_error one
      | ok result =>
          rw [bind_of_ok ran]
          exact (bind_of_ok one).trans (two result middle ran)

theorem callBind {first : Call σ Mark α} {first' : Call τ Mark α}
    {next : α → Call σ Mark β} {next' : α → Call τ Mark β}
    (one : Follows view first.run first'.run world)
    (two : ∀ result middle, first world = (.ok (.ok result), middle) →
      Follows view (next result).run (next' result).run middle) :
    Follows view (first >>= next).run (first' >>= next').run world := by
  refine bind one fun answer middle ran => ?_
  cases answer with
  | error error => rfl
  | ok result => exact two result middle ran

theorem effectBind {first : BridgeM σ Mark α} {first' : BridgeM τ Mark α}
    {next : α → Call σ Mark β} {next' : α → Call τ Mark β}
    (one : Follows view first first' world)
    (two : ∀ result middle, first world = (.ok result, middle) →
      Follows view (next result).run (next' result).run middle) :
    Follows view (effect first >>= next).run (effect first' >>= next').run world := by
  refine callBind (bind one fun _ _ _ => rfl) fun result middle ran => ?_
  exact two result middle (effect_ok ran)

theorem effect {body : BridgeM σ Mark α} {body' : BridgeM τ Mark α}
    (ran : Follows view body body' world) :
    Follows view (TransportBridge.effect body).run (TransportBridge.effect body').run world :=
  bind ran fun _ _ _ => rfl

theorem catchPanic {body : BridgeM σ Mark α} {body' : BridgeM τ Mark α}
    (ran : Follows view body body' world) :
    Follows view (catchPanic body) (catchPanic body') world := by
  unfold Follows at ran ⊢
  rw [catchPanic_eq, catchPanic_eq, ran]
  rfl

/-- Looking at the world, of which nothing is seen that the view changes. -/
theorem looking {next : World σ Mark → Call σ Mark α}
    {next' : World τ Mark → Call τ Mark α}
    (rest : Follows view (next world).run (next' (world.through view)).run world) :
    Follows view ((get : Call σ Mark (World σ Mark)) >>= next).run
      ((get : Call τ Mark (World τ Mark)) >>= next').run world :=
  rest

theorem ensuring {body : BridgeM σ Mark α} {body' : BridgeM τ Mark α}
    {cleanup : BridgeM σ Mark Unit} {cleanup' : BridgeM τ Mark Unit}
    (ran : Follows view body body' world) (cleaned : Oblivious view cleanup cleanup') :
    Follows view (ensuring body cleanup) (ensuring body' cleanup') world := by
  unfold Follows at ran ⊢
  unfold TransportBridge.ensuring
  rw [ran]
  cases body world with
  | mk outcome middle =>
      have clean : cleanup' (middle.through view) = view.upon (cleanup middle) :=
        cleaned middle
      cases outcome with
      | error panic =>
          simp only [View.upon, clean]
      | ok result =>
          simp only [View.upon, clean]
          cases cleanup middle with
          | mk answer last => cases answer <;> rfl

theorem onPanic {body : BridgeM σ Mark α} {body' : BridgeM τ Mark α}
    {cleanup : BridgeM σ Mark Unit} {cleanup' : BridgeM τ Mark Unit}
    (ran : Follows view body body' world) (cleaned : Oblivious view cleanup cleanup') :
    Follows view (onPanic body cleanup) (onPanic body' cleanup') world := by
  unfold Follows at ran ⊢
  unfold TransportBridge.onPanic
  rw [ran]
  cases body world with
  | mk outcome middle =>
      have clean : cleanup' (middle.through view) = view.upon (cleanup middle) :=
        cleaned middle
      cases outcome with
      | error panic => simp only [View.upon, clean]
      | ok result => rfl

end Follows

/-! ## Computations that call no host -/

section Sequencing

variable {view : View σ τ}

namespace Oblivious

theorem pure (result : α) :
    Oblivious view (Pure.pure result : BridgeM σ Mark α) (Pure.pure result) :=
  fun _ => rfl

theorem bind {first : BridgeM σ Mark α} {first' : BridgeM τ Mark α}
    {next : α → BridgeM σ Mark β} {next' : α → BridgeM τ Mark β}
    (one : Oblivious view first first')
    (two : ∀ result, Oblivious view (next result) (next' result)) :
    Oblivious view (first >>= next) (first' >>= next') :=
  fun world => .bind (one world) fun result middle _ => two result middle

theorem callBind {first : Call σ Mark α} {first' : Call τ Mark α}
    {next : α → Call σ Mark β} {next' : α → Call τ Mark β}
    (one : Oblivious view first.run first'.run)
    (two : ∀ result, Oblivious view (next result).run (next' result).run) :
    Oblivious view (first >>= next).run (first' >>= next').run :=
  fun world => .callBind (one world) fun result middle _ => two result middle

theorem effectBind {first : BridgeM σ Mark α} {first' : BridgeM τ Mark α}
    {next : α → Call σ Mark β} {next' : α → Call τ Mark β}
    (one : Oblivious view first first')
    (two : ∀ result, Oblivious view (next result).run (next' result).run) :
    Oblivious view (effect first >>= next).run (effect first' >>= next').run :=
  fun world => .effectBind (one world) fun result middle _ => two result middle

theorem effect {body : BridgeM σ Mark α} {body' : BridgeM τ Mark α}
    (ran : Oblivious view body body') :
    Oblivious view (TransportBridge.effect body).run (TransportBridge.effect body').run :=
  fun world => .effect (ran world)

theorem throw (error : BridgeError) :
    Oblivious view (MonadExcept.throw error : Call σ Mark α).run
      (MonadExcept.throw error : Call τ Mark α).run :=
  fun _ => rfl

theorem modify {change : World σ Mark → World σ Mark} {change' : World τ Mark → World τ Mark}
    (same : ∀ world : World σ Mark,
      change' (world.through view) = (change world).through view) :
    Oblivious view (modify change) (modify change') := by
  intro world
  show ((.ok (), change' (world.through view)) : Except Panic Unit × World τ Mark) =
    (.ok (), (change world).through view)
  rw [same]

theorem witness (moment : Moment Mark) : Oblivious view (witness moment) (witness moment) := by
  refine modify fun world => ?_
  unfold World.push World.through World.preceded
  rw [Array.append_push]

theorem note (notice : Notice) : Oblivious view (note notice) (note notice) :=
  witness _

theorem count (book : Book) {change : Metrics → Metrics} (adds : Metrics.Adds change) :
    Oblivious view (count book change) (count book change) := by
  refine modify fun world => ?_
  cases book with
  | foreign => rfl
  | own =>
      unfold World.count World.setLedger World.ledger World.through World.preceded
      simp only
      rw [adds]

theorem forM {items : List α} {body : α → BridgeM σ Mark Unit} {body' : α → BridgeM τ Mark Unit}
    (each : ∀ item, Oblivious view (body item) (body' item)) :
    Oblivious view (items.forM body) (items.forM body') := by
  induction items with
  | nil => exact pure ()
  | cons item rest inductionHypothesis => exact (each item).bind fun _ => inductionHypothesis

theorem optionForM {item : Option α} {body : α → BridgeM σ Mark Unit}
    {body' : α → BridgeM τ Mark Unit} (each : ∀ item, Oblivious view (body item) (body' item)) :
    Oblivious view (item.forM body) (item.forM body') := by
  cases item with
  | none => exact pure ()
  | some item => exact each item

theorem dropBuffer (buffer : NativeBuffer Hook) :
    Oblivious view (dropBuffer buffer) (dropBuffer buffer) :=
  forM fun _ => witness _

theorem attempt (id : EntryId) (step : Lifecycle → Lifecycle.Step α) :
    Oblivious view (attempt id step) (attempt id step) := by
  intro world
  have same : (world.through view).life id = world.life id := rfl
  unfold Follows TransportBridge.attempt
  rw [same]
  cases step (world.life id) <;> rfl

theorem change (id : EntryId) (step : Lifecycle → α × Lifecycle) :
    Oblivious view (change id step) (change id step) :=
  fun _ => rfl

theorem looking {next : World σ Mark → BridgeM σ Mark α} {next' : World τ Mark → BridgeM τ Mark α}
    (rest : ∀ seen, Oblivious view (next seen) (next' (seen.through view))) :
    Oblivious view ((get : BridgeM σ Mark (World σ Mark)) >>= next)
      ((get : BridgeM τ Mark (World τ Mark)) >>= next') :=
  fun world => rest world world

theorem callLooking {next : World σ Mark → Call σ Mark α} {next' : World τ Mark → Call τ Mark α}
    (rest : ∀ seen, Oblivious view (next seen).run (next' (seen.through view)).run) :
    Oblivious view ((get : Call σ Mark (World σ Mark)) >>= next).run
      ((get : Call τ Mark (World τ Mark)) >>= next').run :=
  fun world => .looking (rest world world)

end Oblivious

end Sequencing

section Computations

variable (view : View σ τ)

namespace Attachment

theorem fail_oblivious (operation : String) (failure : AttachFailure) :
    Oblivious view (fail operation failure) (fail operation failure) := by
  refine .bind (.count .own fun _ _ => rfl) fun _ => ?_
  cases failure <;> exact .bind (.note _) fun _ => .pure _

theorem attachThread_oblivious : Oblivious view attachThread attachThread :=
  fun _ => rfl

theorem detachThread_oblivious : Oblivious view detachThread detachThread :=
  fun _ => rfl

theorem takeFault_oblivious : Oblivious view takeFault takeFault :=
  fun _ => rfl

theorem attach_oblivious (operation : String) :
    Oblivious view (attach operation) (attach operation) := by
  refine .looking fun seen => ?_
  have same : (seen.through view).runtime.threadStatus (seen.through view).thread =
      seen.runtime.threadStatus seen.thread := rfl
  rw [same]
  cases seen.runtime.threadStatus seen.thread with
  | attached => exact .pure _
  | unavailable status => exact .bind (fail_oblivious view _ _) fun _ => .pure _
  | detached =>
      refine .bind (attachThread_oblivious view) fun failure => ?_
      cases failure with
      | none => exact .pure _
      | some status => exact .bind (fail_oblivious view _ _) fun _ => .pure _

theorem drop_oblivious (held : AttachGuard) : Oblivious view (drop held) (drop held) := by
  unfold drop
  split
  · refine .bind (detachThread_oblivious view) fun failure => ?_
    cases failure with
    | none => exact .pure ()
    | some status => exact .note _
  · exact .pure ()

variable {view}

/-- A thunk runs in the same context, if it runs. -/
theorem withAttachedContext_follows {operation : String}
    {thunk : RuntimeContext → BridgeM σ Mark α} {thunk' : RuntimeContext → BridgeM τ Mark α}
    {world : World σ Mark}
    (ran : ∀ context ready, world.Plain ready →
      Follows view (thunk context) (thunk' context) ready) :
    Follows view (withAttachedContext operation thunk) (withAttachedContext operation thunk')
      world := by
  refine .bind (attach_oblivious view operation world) fun attached ready attaching => ?_
  cases attached with
  | error error => rfl
  | ok held =>
      refine .bind (takeFault_oblivious view ready) fun fault looked looking => ?_
      have plain : world.Plain looked :=
        ((attach_calm operation).after attaching).trans (takeFault_calm.after looking)
      cases fault with
      | true =>
          refine .bind (fail_oblivious view _ _ looked) fun error failed _ => ?_
          exact .bind (drop_oblivious view held failed) fun _ _ _ => rfl
      | false =>
          refine .bind ?_ fun _ _ _ => rfl
          exact .ensuring (ran _ looked plain) (drop_oblivious view held)

end Attachment

namespace Custody

theorem lend_oblivious (target : TargetId) : Oblivious view (lend target) (lend target) :=
  .modify fun _ => rfl

theorem takeBack_oblivious (target : TargetId) :
    Oblivious view (takeBack target) (takeBack target) :=
  .modify fun _ => rfl

theorem forgetTarget_oblivious (target : TargetId) :
    Oblivious view (forgetTarget target) (forgetTarget target) := by
  intro world
  have same : (world.through view).keeps target = world.keeps target := rfl
  have forget : Custodian.forget target (world.through view).host = _ :=
    view.forget target world.host
  unfold Follows forgetTarget
  rw [same, forget]
  split <;> rfl

/-- The host that the view shows holds the same. -/
theorem isHeld_through (world : World σ Mark) (entry : EntryId) :
    isHeld (world.through view) entry = isHeld world entry := by
  have knows : Custodian.knows (world.through view).host = Custodian.knows world.host :=
    view.knows world.host
  unfold isHeld
  rw [knows]
  rfl

theorem letGoWithin_oblivious (bound : Nat) (entry : EntryId) :
    Oblivious view (letGoWithin bound entry) (letGoWithin bound entry) := by
  induction bound generalizing entry with
  | zero => exact .pure ()
  | succ bound inductionHypothesis =>
      refine .looking fun seen => ?_
      rw [isHeld_through]
      cases isHeld seen entry with
      | true => exact .pure ()
      | false =>
          refine .bind (.change entry Lifecycle.abandon) fun (buffers, pin) => ?_
          refine .bind (.forM fun buffer => .dropBuffer buffer) fun _ => ?_
          cases pin with
          | none => exact .pure ()
          | some target =>
              refine .bind (forgetTarget_oblivious view target) fun known => ?_
              cases known with
              | none => exact .pure ()
              | some next => exact inductionHypothesis next

theorem letGo_oblivious (entry : EntryId) : Oblivious view (letGo entry) (letGo entry) :=
  .looking fun _ => letGoWithin_oblivious view _ entry

theorem letGoOfTarget_oblivious (target : TargetId) :
    Oblivious view (letGoOfTarget target) (letGoOfTarget target) := by
  refine .bind (forgetTarget_oblivious view target) fun known => ?_
  cases known with
  | none => exact .pure ()
  | some known => exact letGo_oblivious view known

theorem giveBack_oblivious (target : TargetId) :
    Oblivious view (do takeBack target; letGoOfTarget target)
      (do takeBack target; letGoOfTarget target) :=
  .bind (takeBack_oblivious view target) fun _ => letGoOfTarget_oblivious view target

variable {view} {world : World σ Mark} {body : BridgeM σ Mark α} {body' : BridgeM τ Mark α}

theorem holding_follows {entry : EntryId} (ran : Follows view body body' (world.engage entry)) :
    Follows view (holding entry body) (holding entry body') world := by
  refine .ensuring ?_ (.bind (.modify fun _ => rfl) fun _ => letGo_oblivious view entry)
  refine .bind (Oblivious.modify (fun _ => rfl) world) fun _ held engage => ?_
  cases engage
  exact ran

theorem holdingTarget_follows {target : TargetId}
    (ran : ∀ lent, world.Plain lent → Follows view body body' lent) :
    Follows view (holdingTarget target body) (holdingTarget target body') world := by
  refine .ensuring ?_ (giveBack_oblivious view target)
  exact .bind (lend_oblivious view target world) fun _ lent lending =>
    ran lent ((lend_calm target).after lending)

theorem lendingTarget_follows {target : TargetId}
    (ran : ∀ lent, world.Plain lent → Follows view body body' lent) :
    Follows view (lendingTarget target body) (lendingTarget target body') world := by
  refine .onPanic ?_ (giveBack_oblivious view target)
  refine .bind (lend_oblivious view target world) fun _ lent lending => ?_
  refine .bind (ran lent ((lend_calm target).after lending)) fun result done _ => ?_
  exact (takeBack_oblivious view target).bind (fun _ => .pure result) done

end Custody

namespace References

theorem report_oblivious (book : Book) (error : BridgeError) :
    Oblivious view (report book error) (report book error) := by
  unfold report
  split
  · exact .bind (.count book fun _ _ => rfl) fun _ => .bind (.note _) fun _ => .pure _
  · exact .bind (.note _) fun _ => .pure _

theorem reject_oblivious (book : Book) (error : BridgeError) :
    Oblivious view (reject book error : Call σ Mark α).run (reject book error).run :=
  .effectBind (report_oblivious view book error) fun _ => .throw _

theorem checked_oblivious (book : Book) (peer : Peer) (step : Lifecycle → Lifecycle.Step α) :
    Oblivious view (checked book peer step).run (checked book peer step).run := by
  refine .effectBind (.attempt peer.entry step) fun answer => ?_
  cases answer with
  | ok result => exact .pure _
  | error refusal => exact reject_oblivious view book _

theorem unbind_oblivious (book : Book) (handle : Handle) :
    Oblivious view (unbind book handle) (unbind book handle) := by
  intro world
  cases book <;> rfl

theorem unregister_oblivious (book : Book) (handle : Handle) :
    Oblivious view (unregister book handle) (unregister book handle) := by
  refine .bind (unbind_oblivious view book handle) fun freed => ?_
  cases freed with
  | none => exact .pure false
  | some entry => exact .bind (Custody.letGo_oblivious view entry) fun _ => .pure true

theorem teardown_oblivious (book : Book) (handle : Handle) (remains : Teardown) :
    Oblivious view (teardown book handle remains) (teardown book handle remains) := by
  refine .bind (unregister_oblivious view book handle) fun freed => ?_
  have rest : Oblivious view
      (do
        remains.pin.forM Custody.letGoOfTarget
        remains.buffers.forM dropBuffer
        count book Metrics.countDisposed
        note (.disposed handle remains.buffers.length))
      (do
        remains.pin.forM Custody.letGoOfTarget
        remains.buffers.forM dropBuffer
        count book Metrics.countDisposed
        note (.disposed handle remains.buffers.length)) :=
    .bind (.optionForM (Custody.letGoOfTarget_oblivious view)) fun _ =>
      .bind (.forM .dropBuffer) fun _ => .bind (.count book fun _ _ => rfl) fun _ => .note _
  cases freed with
  | true => exact rest
  | false => exact .bind (.note _) fun _ => .bind (.count book fun _ _ => rfl) fun _ => rest

theorem finish_oblivious (book : Book) (peer : Peer) (remains : Option Teardown) :
    Oblivious view (finish book peer remains).run (finish book peer remains).run := by
  cases remains with
  | none => exact .pure _
  | some remains => exact .effect (teardown_oblivious view book peer.handle remains)

theorem release_oblivious (book : Book) (peer : Peer) :
    Oblivious view (release book peer).run (release book peer).run :=
  .callBind (checked_oblivious view book peer _) fun remains =>
    finish_oblivious view book peer remains

theorem releaseNative_oblivious (book : Book) (peer : Peer) :
    Oblivious view (releaseNative book peer).run (releaseNative book peer).run :=
  .callBind (checked_oblivious view book peer _) fun remains =>
    finish_oblivious view book peer remains

end References

namespace Registration

open References

theorem bind?_oblivious (handle : Handle) (target : TargetId) :
    Oblivious view (bind? handle target) (bind? handle target) := by
  intro world
  have same : (world.through view).own.registry.insert? handle
      ⟨(world.through view).entries.size⟩ =
        world.own.registry.insert? handle ⟨world.entries.size⟩ := rfl
  unfold Follows bind?
  simp only [same]
  cases world.own.registry.insert? handle ⟨world.entries.size⟩ <;> rfl

theorem dropUnknown_oblivious (handle : Handle) (event : EventKind) :
    Oblivious view (dropUnknown handle event : Call σ Mark α).run (dropUnknown handle event).run :=
  .effectBind (.bind (.count .own fun _ _ => rfl) fun _ => .note _) fun _ => .throw _

theorem lookup_oblivious (handle : Handle) (event : EventKind) :
    Oblivious view (lookup handle event).run (lookup handle event).run := by
  refine .callLooking fun seen => ?_
  have same : (seen.through view).peer? handle = seen.peer? handle := rfl
  rw [same]
  cases seen.peer? handle with
  | some peer => exact .pure _
  | none => exact dropUnknown_oblivious view handle event

theorem register_oblivious (handle : Handle) (target : TargetId) :
    Oblivious view (register handle target).run (register handle target).run := by
  refine .effectBind (bind?_oblivious view handle target) fun bound => ?_
  cases bound with
  | none =>
      exact .effectBind (Custody.letGoOfTarget_oblivious view target) fun _ =>
        reject_oblivious view .own _
  | some peer =>
      refine .callBind (checked_oblivious view .own peer _) fun _ => ?_
      exact .effectBind (.bind (.count .own fun _ _ => rfl) fun _ => .note _) fun _ => .pure _

end Registration

namespace Delivery

open References

theorem noteIfAny_oblivious (notice : Option Notice) :
    Oblivious view (noteIfAny notice) (noteIfAny notice) :=
  .optionForM .note

theorem dropIfAny_oblivious (buffer : Option (NativeBuffer Hook)) :
    Oblivious view (dropIfAny buffer) (dropIfAny buffer) :=
  .optionForM .dropBuffer

theorem enterReceived_oblivious (peer : Peer) (byteCount : Nat)
    (retained : Option (NativeBuffer Hook)) :
    Oblivious view (enterReceived peer byteCount retained).run
      (enterReceived peer byteCount retained).run := by
  refine .effectBind (.attempt peer.entry _) fun answer => ?_
  cases answer with
  | ok target => exact .pure _
  | error refusal =>
      exact .effectBind (dropIfAny_oblivious view retained) fun _ => reject_oblivious view .own _

theorem releaseAfterPanic_oblivious (peer : Peer) :
    Oblivious view (releaseAfterPanic peer) (releaseAfterPanic peer) :=
  .bind (.note _) fun _ => .bind (releaseNative_oblivious view .own peer) fun _ => .pure ()

end Delivery

end Computations

end TransportBridge
