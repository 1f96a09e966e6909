import TransportBridge.Proofs.Accord

/-!
Contract: worlds that differ in their buffers only.

Two such worlds come to the same when every buffer is seen for its bytes alone:
the lifecycles without the buffers that they keep, and the trace without the
hooks that have run and without the count of freed buffers. Everything else in
them is the same, except that their hosts may keep what is alike.

Owns: bare moments and bare worlds, and that computations of the bridge are in
accord as to what is bare.

Does not own: the code that hands the buffers over.
-/

namespace TransportBridge

variable {σ τ : Type}

/-! ## What is bare -/

/-- The bytes alone. -/
def NativeBuffer.bare (buffer : NativeBuffer Hook) : NativeBuffer Hook :=
  ⟨buffer.data, .transferable, none⟩

def NativeEvent.bare : NativeEvent → NativeEvent
  | .openRequest address options => .openRequest address options.bare
  | .received data => .received data.bare
  | event => event

def BridgeCall.bare : BridgeCall → BridgeCall
  | .native handle event => .native handle event.bare
  | call => call

def Mark.bare : Mark → Mark
  | .called call => .called call.bare
  | .replied call reply => .replied call.bare reply

/-- The moment, but for the count of buffers that a disposal has freed; that a
hook has run is no moment at all. -/
def Moment.bare? : Moment Mark → Option (Moment Mark)
  | .hookRan _ => none
  | .noted (.disposed handle _) => some (.noted (.disposed handle 0))
  | .marked mark => some (.marked mark.bare)
  | moment => some moment

def Entry.bare (entry : Entry) : Entry :=
  { entry with life := entry.life.bare }

/-- The trace but for what buffers have come to. -/
def World.told (world : World σ Mark) : List (Moment Mark) :=
  world.trace.toList.filterMap Moment.bare?

/-- The worlds are the same but for the buffers, and their hosts keep what is
alike. -/
structure World.SameButBuffers (keeps : σ → τ → Prop) (world : World σ Mark)
    (twin : World τ Mark) : Prop where
  config : world.config = twin.config
  runtime : world.runtime = twin.runtime
  thread : world.thread = twin.thread
  entries : world.entries.map Entry.bare = twin.entries.map Entry.bare
  own : world.own = twin.own
  foreign : world.foreign = twin.foreign
  factory : world.factory = twin.factory
  engaged : world.engaged = twin.engaged
  lent : world.lent = twin.lent
  told : world.told = twin.told
  host : keeps world.host twin.host

theorem NativeBuffer.Like.bare {free : Prop} {one other : NativeBuffer Hook}
    (alike : one.Like free other) : one.bare = other.bare := by
  rcases alike with rfl | ⟨_, bytes, held, held'⟩
  · rfl
  · unfold NativeBuffer.bare
    rw [held, held']

theorem Scope.bare_of_permits {scope : Scope} {call call' : BridgeCall}
    (permits : scope.Permits call call') : call.bare = call'.bare := by
  cases permits with
  | native _ alike =>
      cases alike with
      | same event => rfl
      | openRequest address alike => simp [BridgeCall.bare, NativeEvent.bare, alike.bare]
      | received alike => simp [BridgeCall.bare, NativeEvent.bare, alike.bare]
  | _ => rfl

theorem Scope.bare_of_tells {scope : Scope} {moment moment' : Moment Mark}
    (tells : scope.Tells moment moment') : moment.bare? = moment'.bare? := by
  cases tells with
  | noted alike =>
      cases alike with
      | same notice => rfl
      | disposed => rfl
  | called permits => simp [Moment.bare?, Mark.bare, bare_of_permits permits]
  | replied permits => simp [Moment.bare?, Mark.bare, bare_of_permits permits]
  | _ => rfl

/-! ## Worlds that differ in buffers only -/

namespace World

theorem told_push (world : World σ Mark) (moment : Moment Mark) :
    (world.push moment).told = world.told ++ moment.bare?.toList :=
  world.filterMap_push moment Moment.bare?

/-- One lifecycle changes, and so does its bare form. -/
theorem bare_setLife (world : World σ Mark) (id : EntryId) (life : Lifecycle) :
    (world.setLife id life).entries.map Entry.bare =
      (world.entries.map Entry.bare).modify id.index fun entry =>
        { entry with life := life.bare } := by
  apply Array.ext
  · simp [setLife]
  · intro index _ _
    simp only [setLife, Array.getElem_map, Array.getElem_modify]
    split <;> rfl

theorem bare_entry? (world : World σ Mark) (id : EntryId) :
    (world.entries.map Entry.bare)[id.index]? = (world.entry? id).map Entry.bare := by
  unfold entry?
  rw [Array.getElem?_map]

end World

/-- Hosts that keep alike things hold the same, and let go of the same. -/
structure Keeping [Custodian σ] [Custodian τ] (keeps : σ → τ → Prop) : Prop where
  knows {host other} (kept : keeps host other) (entry : EntryId) :
      Custodian.knows host entry = Custodian.knows other entry
  forget {host other} (kept : keeps host other) (target : TargetId) :
      (Custodian.forget target host).1 = (Custodian.forget target other).1 ∧
        keeps (Custodian.forget target host).2 (Custodian.forget target other).2

namespace World.SameButBuffers

variable {keeps : σ → τ → Prop} {world : World σ Mark} {twin : World τ Mark}

theorem entry? (same : world.SameButBuffers keeps twin) (id : EntryId) :
    (world.entry? id).map Entry.bare = (twin.entry? id).map Entry.bare := by
  rw [← bare_entry?, ← bare_entry?, same.entries]

theorem life (same : world.SameButBuffers keeps twin) (id : EntryId) :
    (world.life id).bare = (twin.life id).bare := by
  have entries := same.entry? id
  unfold World.life
  cases found : world.entry? id <;> cases found' : twin.entry? id <;>
    simp_all [Entry.bare]

theorem binds (same : world.SameButBuffers keeps twin) (id : EntryId) :
    world.binds id = twin.binds id := by
  have entries := same.entry? id
  unfold World.binds
  rw [same.own]
  cases found : world.entry? id <;> cases found' : twin.entry? id <;>
    simp_all [Entry.bare]

/-- A target is kept by its pins, which are the same. -/
theorem keeps_target (same : world.SameButBuffers keeps twin) (target : TargetId) :
    world.keeps target = twin.keeps target := by
  have pins {ρ : Type} (world : World ρ Mark) :
      (world.entries.any fun entry => entry.life.pin == some target) =
        (world.entries.map Entry.bare).any fun entry => entry.life.pin == some target := by
    rw [Array.any_map]
    rfl
  unfold World.keeps
  rw [same.lent, pins, pins, same.entries]

theorem push (same : world.SameButBuffers keeps twin) {moment moment' : Moment Mark}
    (bare : moment.bare? = moment'.bare?) :
    (world.push moment).SameButBuffers keeps (twin.push moment') :=
  { same with told := by rw [told_push, told_push, same.told, bare] }

theorem setLife (same : world.SameButBuffers keeps twin) (id : EntryId) {life life' : Lifecycle}
    (bare : life.bare = life'.bare) :
    (world.setLife id life).SameButBuffers keeps (twin.setLife id life') :=
  { same with entries := by rw [bare_setLife, bare_setLife, same.entries, bare] }

variable [Custodian σ] [Custodian τ]

theorem isHeld (same : world.SameButBuffers keeps twin) (keeping : Keeping keeps) (id : EntryId) :
    Custody.isHeld world id = Custody.isHeld twin id := by
  unfold Custody.isHeld
  rw [same.binds, same.engaged, keeping.knows same.host]

theorem forgetTarget (same : world.SameButBuffers keeps twin) (keeping : Keeping keeps)
    (target : TargetId) :
    Ends (World.SameButBuffers keeps) Eq (Custody.forgetTarget target world)
      (Custody.forgetTarget target twin) := by
  unfold Custody.forgetTarget
  rw [same.keeps_target]
  by_cases kept : twin.keeps target = true
  · rw [if_pos kept, if_pos kept]
    exact ⟨.given rfl, same⟩
  · rw [if_neg kept, if_neg kept]
    obtain ⟨known, host⟩ := keeping.forget same.host target
    exact ⟨.given known, { same with host := host }⟩

omit [Custodian σ] [Custodian τ] in
theorem sizes (same : world.SameButBuffers keeps twin) :
    world.entries.size = twin.entries.size := by
  have sizes := congrArg Array.size same.entries
  rwa [Array.size_map, Array.size_map] at sizes

omit [Custodian σ] [Custodian τ] in
theorem bind? (same : world.SameButBuffers keeps twin) (handle : Handle) (target : TargetId) :
    Ends (World.SameButBuffers keeps) Eq (Registration.bind? handle target world)
      (Registration.bind? handle target twin) := by
  unfold Registration.bind?
  simp only
  rw [same.own, same.sizes]
  cases twin.own.registry.insert? handle ⟨twin.entries.size⟩ with
  | none => exact ⟨.given rfl, same⟩
  | some registry =>
      refine ⟨.given rfl, { same with own := rfl, entries := ?_ }⟩
      simp only [Array.map_push]
      rw [same.entries]

/-- Every step of the bridge goes by what is bare. -/
theorem bond (keeping : Keeping keeps) :
    Bond (Scope.whole True) (World.SameButBuffers keeps : Link σ τ) where
  config same := same.config
  factory same := same.factory
  factoryless _ := .inr trivial
  sizes same := same.sizes
  lookup same _ _ := by rw [same.own]
  bound _ _ _ _ _ := trivial
  named {world twin} same entry _ := by
    have entries := same.entry? entry
    cases found : world.entry? entry <;> cases found' : twin.entry? entry <;>
      simp_all [Entry.bare]
  names _ _ _ _ _ := trivial
  life same entry _ := .inr ⟨trivial, same.life entry⟩
  pinned _ _ _ _ _ := trivial
  isHeld same entry _ := same.isHeld keeping entry
  setLife same entry _ life life' alike _ :=
    same.setLife entry (alike.elim (congrArg Lifecycle.bare) And.right)
  push same _ _ tells := same.push (Scope.bare_of_tells tells)
  hookRan {world twin} same _ hook := by
    refine ⟨{ same with told := ?_ }, { same with told := ?_ }⟩
    · rw [World.told_push, same.told]
      exact List.append_nil _
    · rw [World.told_push, same.told]
      exact (List.append_nil _).symm
  count same change := { same with own := by simp only [World.count, World.ledger, World.setLedger, same.own] }
  engage same _ _ := { same with engaged := by simp only [same.engaged] }
  disengage same _ _ := { same with engaged := by simp only [same.engaged] }
  lent same change := { same with lent := by simp only [same.lent] }
  unbound same handle _ := { same with own := by simp only [World.unbound, same.own] }
  forget same target _ := by
    obtain ⟨known, after⟩ := same.forgetTarget keeping target
    exact ⟨known.mono fun _ _ same => ⟨same, fun _ _ => trivial⟩, after⟩
  bind same _ handle target := same.bind? handle target

/-! ### Contexts -/

/-- The two worlds are always the same but for the buffers. -/
def ties (keeps : σ → τ → Prop) : Ties σ τ :=
  fun link => link = World.SameButBuffers keeps

omit [Custodian σ] [Custodian τ] in
theorem looking {α β : Type} {like : α → β → Prop} {next : World σ Mark → BridgeM σ Mark α}
    {next' : World τ Mark → BridgeM τ Mark β}
    (rest : ∀ world twin, World.SameButBuffers keeps world twin →
      InStep (ties keeps) like (next world) (next' twin)) :
    InStep (ties keeps) like ((get : BridgeM σ Mark (World σ Mark)) >>= next)
      ((get : BridgeM τ Mark (World τ Mark)) >>= next') :=
  .looking fun _ tied world twin linked => rest world twin (tied ▸ linked)

omit [Custodian σ] [Custodian τ] in
/-- What is asked of the runtime has one answer, as there is one runtime. -/
theorem ofRuntime {α : Type} (ask : ManagedRuntime → ThreadId → α × ManagedRuntime) :
    InStep (ties keeps) Eq
      (fun world => (.ok (ask world.runtime world.thread).1,
        { world with runtime := (ask world.runtime world.thread).2 }) : BridgeM σ Mark α)
      (fun world => (.ok (ask world.runtime world.thread).1,
        { world with runtime := (ask world.runtime world.thread).2 }) : BridgeM τ Mark α) := by
  rintro _ rfl world twin same
  simp only
  rw [same.runtime, same.thread]
  exact ⟨.given rfl, { same with runtime := rfl, thread := rfl }⟩

omit [Custodian σ] [Custodian τ] in
theorem pushing {moment moment' : Moment Mark} (bare : moment.bare? = moment'.bare?) :
    InStep (ties keeps) Eq (witness moment) (witness moment') := by
  refine .modify ?_
  rintro _ rfl world twin same
  exact same.push bare

omit [Custodian σ] [Custodian τ] in
theorem counting (change : Metrics → Metrics) :
    InStep (ties keeps) Eq (TransportBridge.count .own change)
      (TransportBridge.count .own change) := by
  refine .modify ?_
  rintro _ rfl world twin same
  exact { same with own := by simp only [World.count, World.ledger, World.setLedger, same.own] }

omit [Custodian σ] [Custodian τ] in
theorem fail (operation : String) (failure : AttachFailure) :
    InStep (ties keeps) Eq (Attachment.fail operation failure)
      (Attachment.fail operation failure) := by
  refine (counting _).andThen fun _ => ?_
  cases failure <;> exact InStep.andThen (pushing rfl) fun _ => .pure rfl

omit [Custodian σ] [Custodian τ] in
theorem attach (operation : String) :
    InStep (ties keeps) Eq (Attachment.attach operation) (Attachment.attach operation) := by
  refine looking fun world twin same => ?_
  rw [same.runtime, same.thread]
  cases twin.runtime.threadStatus twin.thread with
  | attached => exact .pure rfl
  | unavailable status => exact (fail operation _).andThen fun _ => .pure rfl
  | detached =>
      refine (ofRuntime ManagedRuntime.attach).andThen fun failure => ?_
      cases failure with
      | none => exact .pure rfl
      | some status => exact (fail operation _).andThen fun _ => .pure rfl

omit [Custodian σ] [Custodian τ] in
theorem drop (held : AttachGuard) :
    InStep (ties keeps) Eq (Attachment.drop held) (Attachment.drop held) := by
  unfold Attachment.drop
  by_cases here : held.attachedHere = true
  · rw [if_pos here, if_pos here]
    refine (ofRuntime ManagedRuntime.detach).andThen fun failure => ?_
    cases failure with
    | none => exact .pure rfl
    | some status => exact pushing rfl
  · rw [if_neg here, if_neg here]
    exact .pure rfl

omit [Custodian σ] [Custodian τ] in
/-- Contexts are had, or refused, in step. -/
theorem withAttachedContext (operation : String) {α : Type}
    {thunk : RuntimeContext → BridgeM σ Mark α} {thunk' : RuntimeContext → BridgeM τ Mark α}
    (inStep : ∀ context, InStep (ties keeps) Eq (thunk context) (thunk' context)) :
    InStep (ties keeps) Eq (Attachment.withAttachedContext operation thunk)
      (Attachment.withAttachedContext operation thunk') := by
  refine (attach operation).andThen fun taken => ?_
  cases taken with
  | error error => exact .pure rfl
  | ok held =>
      refine (ofRuntime fun runtime _ => runtime.takeFault).andThen fun fault => ?_
      cases fault with
      | true => exact (fail operation _).andThen fun _ => (drop held).andThen fun _ => .pure rfl
      | false => exact (InStep.ensuring (inStep _) (drop held)).andThen fun _ => .pure rfl

/-- All that the bridge does is the same but for the buffers. -/
theorem accord (keeping : Keeping keeps) :
    Accord (Scope.whole True) (ties keeps : Ties σ τ) where
  bond := by
    rintro _ rfl
    exact bond keeping
  context {peer} _ {target} _ event body body' inStep := by
    refine withAttachedContext event.name fun _ => looking fun world twin same => ?_
    have attached : world.attached? = twin.attached? := by
      unfold World.attached?
      rw [same.runtime, same.thread]
    rw [attached]
    exact (pushing rfl).andThen fun _ => inStep

end World.SameButBuffers

end TransportBridge
