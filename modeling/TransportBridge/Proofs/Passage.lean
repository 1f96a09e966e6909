import TransportBridge.Proofs.Calm

/-!
Contract: how a world evolves while a computation of the bridge runs.

Between the beginning and the end of a computation the world goes along a path
of strides, and at the end exactly those lifecycles are closing that were at
the beginning.

Owns: evolution, its laws for sequencing and cleaning up, and that
registrations evolve.

Does not own: deliveries and the calls of the managed side, which begin what
the bridge calls. Of that it is assumed here that it evolves.
-/

namespace TransportBridge

variable {σ α β : Type} {world : World σ Mark}

structure World.Evolves (before after : World σ Mark) : Prop where
  path : Path before after
  closing : ∀ id, (after.life id).Closing ↔ (before.life id).Closing

/-- What the bridge calls lets the world evolve, whatever it does. -/
structure Host.Evolves (host : Host σ Mark) : Prop where
  callback {world : World σ Mark} (sound : world.Sound) (peer : Peer) (target : TargetId)
      (event : SocketEvent) : world.Evolves (host.callback peer target event world).2
  createHandle {world : World σ Mark} (sound : world.Sound) (address : Address)
      (framing : Framing) : world.Evolves (host.createHandle address framing world).2
  engine {world : World σ Mark} (sound : world.Sound) (handle : Handle) (call : EngineCall) :
      world.Evolves (host.engine handle call world).2
  createTarget {world : World σ Mark} (sound : world.Sound) (factory : FactoryId)
      (handle : Handle) (address : Address) (options : Bytes) :
      world.Evolves (host.createTarget factory handle address options world).2

namespace World

variable {after : World σ Mark} {peer : Peer}

theorem life_concluded (world : World σ Mark) (peer : Peer)
    (outcome : Option Teardown × Lifecycle) (id : EntryId) :
    (world.concluded peer outcome).life id = (world.setLife peer.entry outcome.2).life id := by
  obtain ⟨remains, next⟩ := outcome
  cases remains <;> rfl

/-- Only one lifecycle changes, and it is closing as it was before. -/
theorem closing_setLife (genuine : world.Genuine peer) {next : Lifecycle}
    (same : next.Closing ↔ (world.life peer.entry).Closing) (id : EntryId) :
    ((world.setLife peer.entry next).life id).Closing ↔ (world.life id).Closing := by
  obtain ⟨entry, found, _⟩ := genuine
  by_cases own : id = peer.entry
  · subst own
    rw [life_setLife_self found]
    exact same
  · rw [life_setLife_of_ne next own]

namespace Evolves

theorem refl (world : World σ Mark) : world.Evolves world :=
  ⟨.refl, fun _ => .rfl⟩

theorem trans {first second third : World σ Mark} (one : first.Evolves second)
    (two : second.Evolves third) : first.Evolves third :=
  ⟨one.path.trans two.path, fun id => (two.closing id).trans (one.closing id)⟩

theorem of_plain (plain : world.Plain after) : world.Evolves after :=
  ⟨.single (.plain plain), fun id => by rw [plain.life]⟩

theorem then_plain {last : World σ Mark} (evolves : world.Evolves after)
    (plain : after.Plain last) : world.Evolves last :=
  evolves.trans (.of_plain plain)

theorem sound (evolves : world.Evolves after) (sound : world.Sound) : after.Sound :=
  evolves.path.sound sound

theorem genuine (evolves : world.Evolves after) (genuine : world.Genuine peer) :
    after.Genuine peer :=
  evolves.path.genuine genuine

/-- A stride that changes one lifecycle, and calm things after it. -/
theorem of_stride (stride : Stride world after) {next : Lifecycle}
    (genuine : world.Genuine peer) (same : next.Closing ↔ (world.life peer.entry).Closing)
    (lives : ∀ id, after.life id = (world.setLife peer.entry next).life id) :
    world.Evolves after :=
  ⟨.single stride, fun id => by rw [lives]; exact closing_setLife genuine same id⟩

/-! ### Sequencing -/

theorem bind {first : BridgeM σ Mark α} {next : α → BridgeM σ Mark β}
    (one : world.Evolves (first world).2)
    (two : ∀ result middle, first world = (.ok result, middle) → world.Evolves middle →
      middle.Evolves (next result middle).2) : world.Evolves ((first >>= next) world).2 := by
  cases ran : first world with
  | mk outcome middle =>
      rw [ran] at one
      cases outcome with
      | ok result =>
          rw [bind_of_ok ran]
          exact one.trans (two result middle ran one)
      | error panic =>
          rw [bind_of_error ran]
          exact one

theorem bind_run {first : BridgeM σ Mark α} {next : α → BridgeM σ Mark β} {result : α}
    {middle : World σ Mark} (ran : first world = (.ok result, middle))
    (rest : world.Evolves (next result middle).2) : world.Evolves ((first >>= next) world).2 := by
  rw [bind_of_ok ran]
  exact rest

theorem callBind {first : Call σ Mark α} {next : α → Call σ Mark β}
    (one : world.Evolves (first world).2)
    (two : ∀ result middle, first world = (.ok (.ok result), middle) → world.Evolves middle →
      middle.Evolves (next result middle).2) : world.Evolves ((first >>= next) world).2 := by
  cases ran : first world with
  | mk outcome middle =>
      rw [ran] at one
      cases outcome with
      | ok answer =>
          cases answer with
          | ok result =>
              rw [callBind_of_ok ran]
              exact one.trans (two result middle ran one)
          | error error =>
              rw [callBind_of_rejected ran]
              exact one
      | error panic =>
          rw [callBind_of_panicked ran]
          exact one

theorem effectBind {first : BridgeM σ Mark α} {next : α → Call σ Mark β}
    (one : world.Evolves (first world).2)
    (two : ∀ result middle, first world = (.ok result, middle) → world.Evolves middle →
      middle.Evolves (next result middle).2) :
    world.Evolves ((effect first >>= next) world).2 := by
  cases ran : first world with
  | mk outcome middle =>
      rw [ran] at one
      cases outcome with
      | ok result =>
          rw [effectBind_of_ok ran]
          exact one.trans (two result middle ran one)
      | error panic =>
          rw [effectBind_of_error ran]
          exact one

theorem effect {body : BridgeM σ Mark α} {middle : World σ Mark}
    (evolves : world.Evolves (body middle).2) :
    world.Evolves (TransportBridge.effect body middle).2 := by
  cases ran : body middle with
  | mk outcome after =>
      rw [ran] at evolves
      cases outcome with
      | ok result =>
          rw [effect_of_ok ran]
          exact evolves
      | error panic =>
          rw [effect_of_error ran]
          exact evolves

theorem of_run {body : BridgeM σ Mark α} {outcome : Except Panic α} {middle : World σ Mark}
    (ran : body middle = (outcome, after)) (evolves : world.Evolves after) :
    world.Evolves (body middle).2 := by
  rw [ran]
  exact evolves

theorem after_run {body : BridgeM σ Mark α} {outcome : Except Panic α}
    (evolves : world.Evolves (body world).2) (ran : body world = (outcome, after)) :
    world.Evolves after := by
  rw [ran] at evolves
  exact evolves

theorem looking {next : World σ Mark → Call σ Mark α} (rest : world.Evolves (next world world).2) :
    world.Evolves (((get : Call σ Mark (World σ Mark)) >>= next) world).2 :=
  rest

/-- Calm things in the middle of what evolves as a whole. -/
theorem afterCalm {first : BridgeM σ Mark α} {next : α → Call σ Mark β} {middle : World σ Mark}
    (calm : Calm first middle)
    (rest : ∀ result after, middle.Plain after → world.Evolves (next result after).2) :
    world.Evolves ((TransportBridge.effect first >>= next) middle).2 := by
  obtain ⟨result, after, ran, plain⟩ := calm
  rw [effectBind_of_ok ran]
  exact rest result after plain

theorem calm {body : BridgeM σ Mark α} (calm : Calm body world) :
    world.Evolves (body world).2 :=
  .of_plain calm.plain

theorem rejected {body : Call σ Mark α} {error : BridgeError}
    (rejects : Rejects body error world) : world.Evolves (body world).2 := by
  obtain ⟨after, ran, plain⟩ := rejects
  rw [ran]
  exact .of_plain plain

theorem ensuring {body : BridgeM σ Mark α} {cleanup : BridgeM σ Mark Unit}
    (ran : world.Evolves (body world).2) (cleaned : Calm cleanup (body world).2) :
    world.Evolves (TransportBridge.ensuring body cleanup world).2 := by
  obtain ⟨_, after, clean, plain⟩ := cleaned
  rw [ensuring_of_ok (rfl : body world = ((body world).1, (body world).2)) clean]
  exact ran.then_plain plain

theorem onPanic {body : BridgeM σ Mark α} {cleanup : BridgeM σ Mark Unit}
    (ran : world.Evolves (body world).2) (cleaned : Calm cleanup (body world).2) :
    world.Evolves (TransportBridge.onPanic body cleanup world).2 := by
  cases run : body world with
  | mk outcome after =>
      rw [run] at ran cleaned
      cases outcome with
      | ok result =>
          rw [onPanic_of_ok run]
          exact ran
      | error panic =>
          rw [onPanic_of_error run]
          exact ran.then_plain cleaned.plain

end Evolves

end World

/-! ## Holding -/

/-- A registration is held for a call. -/
def World.engage (world : World σ Mark) (entry : EntryId) : World σ Mark :=
  { world with engaged := entry :: world.engaged }

theorem World.plain_engage (world : World σ Mark) (entry : EntryId) :
    world.Plain (world.engage entry) := .aside rfl rfl rfl rfl

namespace Custody

variable [Custodian σ]

/-- A registration is let go of calmly after a computation that it was held
for. -/
theorem holding_runs {entry : EntryId} {body : BridgeM σ Mark α} {outcome : Except Panic α}
    {done : World σ Mark} (ran : body (world.engage entry) = (outcome, done))
    (sound : done.Sound) :
    ∃ after, holding entry body world = (outcome, after) ∧ done.Plain after := by
  have dropped : done.Plain { done with engaged := done.engaged.erase entry } :=
    .aside rfl rfl rfl rfl
  refine ⟨{ done with engaged := done.engaged.erase entry }, ?_, dropped⟩
  have engaged : (do
      modify fun world : World σ Mark => { world with engaged := entry :: world.engaged }
      body : BridgeM σ Mark α) world = (outcome, done) := (bind_of_ok rfl).trans ran
  exact ensuring_of_ok engaged
    ((bind_of_ok rfl).trans (letGo_of_sound (sound.plain dropped) entry))

theorem holding_evolves (sound : world.Sound) {entry : EntryId} {body : BridgeM σ Mark α}
    (ran : ∀ held, world.Plain held → held.Evolves (body held).2) :
    world.Evolves (holding entry body world).2 := by
  have evolves : world.Evolves (body (world.engage entry)).2 :=
    .trans (.of_plain (world.plain_engage entry)) (ran _ (world.plain_engage entry))
  obtain ⟨after, held, plain⟩ :=
    holding_runs (rfl : body (world.engage entry) = (_, _)) (evolves.sound sound)
  rw [held]
  exact evolves.then_plain plain

theorem lendingTarget_evolves (sound : world.Sound) {target : TargetId} {body : BridgeM σ Mark α}
    (ran : ∀ lent, world.Plain lent → lent.Evolves (body lent).2) :
    world.Evolves (lendingTarget target body world).2 := by
  have evolves : world.Evolves ((do
      lend target
      let result ← body
      takeBack target
      return result : BridgeM σ Mark α) world).2 := by
    refine .bind (.calm (lend_calm target)) ?_
    intro _ lent lending _
    have taken : world.Plain lent := (lend_calm target).after lending
    refine .bind (ran lent taken) ?_
    intro result _ _ _
    exact .calm ((takeBack_calm target).andThen fun _ _ => .pure result)
  exact .onPanic evolves (giveBack_calm (evolves.sound sound) target)

end Custody

theorem Call.holding_evolves [Custodian σ] (sound : world.Sound) {entry : EntryId}
    {body : Call σ Mark α} (ran : ∀ held, world.Plain held → held.Evolves (body held).2) :
    world.Evolves (Call.holding entry body world).2 :=
  Custody.holding_evolves sound ran

/-! ## Checked steps -/

/-- A step that is refused rejects the call; one that is taken goes on in the
next lifecycle. -/
theorem References.checked_evolves {book : Book} {peer : Peer}
    {step : Lifecycle → Lifecycle.Step α} {rest : α → Call σ Mark β}
    (noLapse : ∀ {refusal}, step (world.life peer.entry) = .error refusal →
      refusal.isLapse = false)
    (taken : ∀ result next, step (world.life peer.entry) = .ok (result, next) →
      world.Evolves (rest result (world.setLife peer.entry next)).2) :
    world.Evolves ((checked book peer step >>= rest) world).2 := by
  cases stepped : step (world.life peer.entry) with
  | error refusal =>
      obtain ⟨after, rejected, plain⟩ : Rejects (checked book peer step) _ world :=
        checked_of_refused stepped (noLapse stepped)
      rw [callBind_of_rejected rejected]
      exact .of_plain plain
  | ok outcome =>
      rw [callBind_of_ok (checked_of_ok stepped)]
      exact taken outcome.1 outcome.2 stepped

/-! ## Registration -/

namespace Registration

open References

theorem modify_push_size (entries : Array Entry) (entry : Entry)
    (change : Entry → Entry) :
    (entries.push entry).modify entries.size change = entries.push (change entry) := by
  apply Array.ext
  · simp
  · intro index _ bound
    rw [Array.getElem_modify, Array.getElem_push, Array.getElem_push]
    by_cases last : index < entries.size
    · rw [dif_pos last, dif_pos last, if_neg (by omega)]
    · rw [dif_neg last, dif_neg last, if_pos (by simp at bound; omega)]

theorem closing_enrolled (world : World σ Mark) (registry : Registry) (handle : Handle)
    (target : TargetId) (id : EntryId) :
    ((world.enrolled registry handle target).life id).Closing ↔ (world.life id).Closing := by
  rw [World.life_enrolled]
  split
  · next new =>
      rw [new, World.life_of_absent (World.entry?_new world)]
      exact ⟨(nomatch ·.1), (nomatch ·.1)⟩
  · rfl

theorem dropUnknown_rejects (handle : Handle) (event : EventKind) :
    Rejects (dropUnknown handle event : Call σ Mark α) (.unknownHandle handle) world := by
  obtain ⟨_, counted, count, one⟩ : Calm (count .own Metrics.countDropped) world :=
    .count .own fun _ => ⟨rfl, rfl⟩
  obtain ⟨_, after, note, two⟩ : Calm (note (.unknownHandle handle event)) counted :=
    .note _ rfl
  exact ⟨after, effectBind_of_ok ((bind_of_ok count).trans note), one.trans two⟩

theorem genuine_of_peer? (sound : world.Sound) {handle : Handle} {peer : Peer}
    (known : world.peer? handle = some peer) : world.Genuine peer := by
  obtain ⟨id, bound, rfl⟩ := Option.map_eq_some_iff.mp known
  exact sound.found bound

theorem lookup_of_known {handle : Handle} {peer : Peer} (known : world.peer? handle = some peer)
    (event : EventKind) : lookup handle event world = (.ok (.ok peer), world) := by
  have began : lookup handle event world = _ := callBind_of_ok rfl
  rw [known] at began
  exact began

/-- A bound handle is found as it is, and any other event is dropped. -/
theorem lookup_cases (sound : world.Sound) (handle : Handle) (event : EventKind) :
    (∃ peer, lookup handle event world = (.ok (.ok peer), world) ∧ world.Genuine peer) ∨
    Rejects (lookup handle event) (.unknownHandle handle) world := by
  cases known : world.peer? handle with
  | none =>
      have began : lookup handle event world = _ := callBind_of_ok rfl
      rw [known] at began
      obtain ⟨after, dropped, plain⟩ : Rejects (dropUnknown handle event :
        Call σ Mark Peer) _ world := dropUnknown_rejects handle event
      exact .inr ⟨after, began.trans dropped, plain⟩
  | some peer => exact .inl ⟨peer, lookup_of_known known event, genuine_of_peer? sound known⟩

theorem found_of_lookup (sound : world.Sound) {handle : Handle} {event : EventKind}
    {middle : World σ Mark} {peer : Peer}
    (ran : lookup handle event world = (.ok (.ok peer), middle)) :
    middle = world ∧ world.Genuine peer := by
  rcases lookup_cases sound handle event with ⟨known, bound, genuine⟩ | ⟨_, unknown, _⟩
  · cases bound.symm.trans ran
    exact ⟨rfl, genuine⟩
  · cases unknown.symm.trans ran

/-- A call on a bound handle goes on with its connection, which is held. -/
theorem lookup_holding_evolves [Custodian σ] (sound : world.Sound) {handle : Handle}
    {event : EventKind} {rest : Peer → Call σ Mark α}
    (found : ∀ {peer} {held : World σ Mark}, held.Sound → held.Genuine peer →
      held.Evolves (rest peer held).2) :
    world.Evolves ((do
      let peer ← lookup handle event
      Call.holding peer.entry (rest peer)) world).2 := by
  rcases lookup_cases sound handle event with ⟨peer, bound, genuine⟩ | ⟨after, unknown, plain⟩
  · rw [callBind_of_ok bound]
    exact Call.holding_evolves sound fun held holding =>
      found (sound.plain holding) (holding.genuine genuine)
  · rw [callBind_of_rejected unknown]
    exact .of_plain plain

variable {host : Host σ Mark}

/-- A call of the engine for nobody. -/
theorem forward_evolves (hostEvolves : host.Evolves) (sound : world.Sound) (handle : Handle)
    (call : EngineCall) : world.Evolves (forward host none handle call world).2 := by
  refine .bind (.calm (.witness (fun _ => rfl) rfl)) ?_
  intro _ asked _ evolves
  exact hostEvolves.engine (evolves.sound sound) handle call

theorem askEngine_evolves (hostEvolves : host.Evolves) (sound : world.Sound)
    (address : Address) (framing : Framing) :
    world.Evolves (askEngine host address framing world).2 := by
  refine .bind (.calm (.witness (fun _ => rfl) rfl)) ?_
  intro _ asked _ evolves
  exact hostEvolves.createHandle (evolves.sound sound) address framing

variable [Custodian σ]

/-- A free handle is bound, and its target is pinned. -/
theorem register_of_inserted {registry : Registry} {handle : Handle}
    (inserted : world.own.registry.insert? handle ⟨world.entries.size⟩ = some registry)
    (target : TargetId) :
    register handle target world = (.ok (.ok ⟨⟨world.entries.size⟩, handle⟩),
      (world.enrolled registry handle target).push (.noted (.registered handle))) := by
  let bound : World σ Mark := { world with
    own := { world.own with registry }
    entries := world.entries.push ⟨handle, target, {}⟩ }
  let peer : Peer := ⟨⟨world.entries.size⟩, handle⟩
  have unbound : bind? handle target world = (.ok (some peer), bound) := by
    unfold bind?
    simp only [inserted]
    rfl
  have fresh : bound.life peer.entry = {} := by
    have found : bound.entry? peer.entry = some ⟨handle, target, {}⟩ := by
      unfold World.entry?
      exact Array.getElem?_push_size
    exact World.life_of_entry found
  have adopted : checked .own peer (Lifecycle.adoptPin target) bound =
      (.ok (.ok ()), bound.setLife peer.entry { pin := some target }) :=
    checked_of_ok (by rw [fresh]; rfl)
  have filled : (bound.setLife peer.entry { pin := some target }).count .own
      Metrics.countRegistered = world.enrolled registry handle target := by
    have entries := modify_push_size world.entries ⟨handle, target, {}⟩
      fun entry => { entry with life := { pin := some target } }
    exact congrArg (fun entries => { world.enrolled registry handle target with entries }) entries
  rw [← filled]
  exact (effectBind_of_ok unbound).trans ((callBind_of_ok adopted).trans
    (effectBind_of_ok ((bind_of_ok rfl).trans rfl)))

/-- A free handle is bound to a new entry that holds the target; any other one
is refused. -/
theorem register_cases (sound : world.Sound) (handle : Handle) (target : TargetId) :
    (∃ registry after, world.own.registry.insert? handle ⟨world.entries.size⟩ = some registry ∧
      register handle target world = (.ok (.ok ⟨⟨world.entries.size⟩, handle⟩), after) ∧
      (world.enrolled registry handle target).Plain after) ∨
    Rejects (register handle target) (.duplicateHandle handle) world := by
  cases inserted : world.own.registry.insert? handle ⟨world.entries.size⟩ with
  | none =>
      have unbound : bind? handle target world = (.ok none, world) := by
        unfold bind?
        simp only [inserted]
      obtain ⟨_, forgotten, forget, one⟩ : Calm (Custody.letGoOfTarget target) world :=
        Custody.letGoOfTarget_calm sound target
      obtain ⟨after, rejected, two⟩ : Rejects (reject .own (.duplicateHandle handle) :
        Call σ Mark Peer) _ forgotten := reject_rejects .own rfl
      refine .inr ⟨after, ?_, one.trans two⟩
      exact (effectBind_of_ok unbound).trans ((effectBind_of_ok forget).trans rejected)
  | some registry =>
      exact .inl ⟨registry, _, rfl, register_of_inserted inserted target,
        .push (fun _ => rfl) rfl⟩

theorem register_noLapse (sound : world.Sound) {handle : Handle} {target : TargetId}
    {error : BridgeError} {after : World σ Mark}
    (ran : register handle target world = (.ok (.error error), after)) :
    error.isLapse = false := by
  rcases register_cases sound handle target with ⟨_, _, _, made, _⟩ | ⟨_, refused, _⟩
  · cases made.symm.trans ran
  · cases refused.symm.trans ran
    rfl

theorem register_evolves (sound : world.Sound) (handle : Handle) (target : TargetId) :
    world.Evolves (register handle target world).2 := by
  rcases register_cases sound handle target with ⟨registry, after, inserted, ran, plain⟩ | rejects
  · rw [ran]
    refine ⟨.single (.registered inserted plain), ?_⟩
    intro id
    rw [plain.life]
    exact closing_enrolled world registry handle target id
  · exact .rejected rejects

theorem genuine_of_register {after : World σ Mark} {handle : Handle} {target : TargetId}
    {peer : Peer} (sound : world.Sound)
    (ran : register handle target world = (.ok (.ok peer), after)) : after.Genuine peer := by
  rcases register_cases sound handle target with
    ⟨registry, _, _, registered, plain⟩ | ⟨_, rejected, _⟩
  · obtain ⟨same, rfl⟩ := Prod.mk.inj (registered.symm.trans ran)
    obtain rfl := Except.ok.inj (Except.ok.inj same)
    refine plain.genuine ⟨⟨handle, target, { pin := some target }⟩, ?_, rfl⟩
    rw [World.entry?_enrolled, if_pos rfl]
  · cases (rejected.symm.trans ran)

theorem openOutbound_evolves (hostEvolves : host.Evolves) (sound : world.Sound)
    (address : Address) (framing : Option Framing) (target : TargetId) :
    world.Evolves (openOutbound host address framing target world).2 := by
  refine .looking (.effectBind ?_ fun answer asked _ evolves => ?_)
  · exact Custody.lendingTarget_evolves sound fun lent plain =>
      askEngine_evolves hostEvolves (sound.plain plain) address _
  · have askedSound := evolves.sound sound
    cases answer with
    | error error =>
        refine .afterCalm ?_ fun _ _ plain => .of_plain plain
        apply (Calm.note _ rfl).bind
        intro _ noted _ plain
        exact Custody.letGoOfTarget_calm (askedSound.plain plain) target
    | ok handle =>
        refine .afterCalm (.note _ rfl) ?_
        intro _ noted plain
        have notedSound := askedSound.plain plain
        apply (World.Evolves.of_plain plain).trans
        refine .effectBind (register_evolves notedSound handle target) ?_
        intro outcome after registered made
        have afterSound := made.sound notedSound
        cases outcome with
        | ok peer => exact .refl after
        | error error =>
            refine .effectBind ?_ fun _ last _ _ => .refl last
            refine .bind (.calm (.note _ (register_noLapse notedSound registered))) ?_
            intro _ told _ telling
            exact forward_evolves hostEvolves (telling.sound afterSound) handle _

/-- A handle that nobody knows is registered with what the factory makes for
it, or dropped. -/
theorem adoptFromFactory_ends (hostEvolves : host.Evolves) (sound : world.Sound)
    (handle : Handle) (address : Address) (options : Bytes) :
    ∃ outcome after, adoptFromFactory host handle address options world = (outcome, after) ∧
      world.Evolves after ∧ ∀ peer, outcome = .ok (.ok peer) → after.Genuine peer := by
  have began : adoptFromFactory host handle address options world = _ := callBind_of_ok rfl
  cases installed : world.factory with
  | none =>
      rw [installed] at began
      obtain ⟨after, dropped, plain⟩ : Rejects (dropUnknown handle .openRequest :
        Call σ Mark Peer) _ world := dropUnknown_rejects handle _
      exact ⟨_, after, began.trans dropped, .of_plain plain, nofun⟩
  | some factory =>
      rw [installed] at began
      obtain ⟨_, asked, ask, asking⟩ :
          Calm (witness (.factoryAsked factory handle address options)) world :=
        .witness (fun _ => rfl) rfl
      have askedSound := sound.plain asking
      have making : asked.Evolves (host.createTarget factory handle address options asked).2 :=
        hostEvolves.createTarget askedSound factory handle address options
      cases run : host.createTarget factory handle address options asked with
      | mk answer made =>
          rw [run] at making
          have evolves := (World.Evolves.of_plain asking).trans making
          have madeSound := evolves.sound sound
          rcases answer with panic | error | target
          · exact ⟨_, made, began.trans ((effectBind_of_ok ask).trans (effectBind_of_error run)),
              evolves, nofun⟩
          · obtain ⟨_, counted, count, counting⟩ : Calm (count .own Metrics.countDropped) made :=
              .count .own fun _ => ⟨rfl, rfl⟩
            obtain ⟨_, after, note, noting⟩ :
              Calm (note (.inboundDeclined handle error)) counted :=
                .note _ rfl
            refine ⟨.ok (.error (.nativeEngine error)), after, ?_,
              evolves.then_plain (counting.trans noting), nofun⟩
            exact began.trans ((effectBind_of_ok ask).trans ((effectBind_of_ok run).trans
              (effectBind_of_ok ((bind_of_ok count).trans note))))
          · cases registering : register handle target made with
            | mk outcome after =>
                have registered := register_evolves madeSound handle target
                rw [registering] at registered
                refine ⟨outcome, after, ?_, evolves.trans registered, ?_⟩
                · exact began.trans ((effectBind_of_ok ask).trans
                    ((effectBind_of_ok run).trans registering))
                · intro peer same
                  rw [same] at registering
                  exact genuine_of_register madeSound registering

theorem adoptFromFactory_evolves (hostEvolves : host.Evolves) (sound : world.Sound)
    {handle : Handle} {address : Address} {options : Bytes} {rest : Peer → Call σ Mark α}
    (adopted : ∀ peer after, world.Evolves after → after.Genuine peer →
      after.Evolves (rest peer after).2) :
    world.Evolves ((adoptFromFactory host handle address options >>= rest) world).2 := by
  obtain ⟨outcome, after, ran, evolves, genuine⟩ :=
    adoptFromFactory_ends hostEvolves sound handle address options
  refine .callBind (by rw [ran]; exact evolves) ?_
  intro peer middle same _
  obtain ⟨rfl, rfl⟩ := Prod.mk.inj (ran.symm.trans same)
  exact adopted peer after evolves (genuine peer rfl)

end Registration

end TransportBridge
