import TransportBridge.Proofs.AccordCalls
import TransportBridge.Proofs.Steadiness

/-!
Contract: a bridge that connections share, each with a compartment of its own.

A member is a connection with its handle, its registration and its target. It
is apart if the three go together: nothing else goes by its handle, is bound to
its registration or pins its target. Two worlds match for a member if it is
apart in both, and has the same part of both.

Owns: contexts in a runtime that works; members, their part of a world and the
worlds that match for one; that what is done for the member is done in step in
worlds that match, and that what is done for others leaves them matching.

Does not own: how members come to be apart.
-/

namespace TransportBridge

variable {σ α : Type}

/-! ## Contexts in a runtime that works -/

/-- Nothing has happened but to the runtime, which works, and to the log. -/
inductive World.Idles (world : World σ Mark) : World σ Mark → Prop where
  | runtime {runtime : ManagedRuntime} (works : runtime.Works) :
      Idles world { world with runtime }
  | noted {runtime : ManagedRuntime} (works : runtime.Works) (notice : Notice) :
      Idles world (World.push { world with runtime } (.noted notice))

namespace Attachment

variable {world : World σ Mark}

theorem drop_of_works (works : world.runtime.Works) (held : AttachGuard) :
    ∃ after, drop held world = (.ok (), after) ∧ world.Idles after := by
  obtain ⟨after, dropped, gone⟩ := drop_runs held world
  refine ⟨after, dropped, ?_⟩
  cases gone with
  | found => exact .runtime works
  | detached => exact .runtime (works.detach world.thread)
  | noted => exact .noted (works.detach world.thread) _

/-- A runtime that works always has a context, which ends as its thunk does. -/
theorem withAttachedContext_of_works (works : world.runtime.Works) (operation : String) :
    ∃ held ready, world.Idles ready ∧
      ∀ (body : BridgeM σ Mark α) outcome done after, body ready = (outcome, done) →
        drop held done = (.ok (), after) →
        withAttachedContext operation (fun _ => body) world = (outcome.map .ok, after) := by
  obtain ⟨held, taken, attaching, still, runs⟩ := course_of_works works operation
  refine ⟨held, taken.faultTaken, ?_, fun body outcome done after ended dropped => ?_⟩
  · cases attaching <;> exact .runtime still
  · exact (runs fun _ => body).trans (guarded_runs ended dropped)

end Attachment

/-! ## Members -/

/-- A connection with its target. -/
structure Member where
  peer : Peer
  target : TargetId

def BridgeCall.isOn (peer : Peer) : BridgeCall → Bool
  | .native handle _ => handle = peer.handle
  | .socket entry _ => entry = peer.entry
  | _ => false

def Mark.isOn (peer : Peer) : Mark → Bool
  | .called call => call.isOn peer
  | .replied call _ => call.isOn peer

/-- What the member has to do with a moment: the callbacks of its target, on
whatever thread, the calls of the engine for its handle, and the calls on it with
their replies. -/
def Moment.of? (member : Member) : Moment Mark → Option (Moment Mark)
  | .callback peer target event _ =>
    if target = member.target then some (.callback peer target event none) else none
  | .engineCalled source handle call =>
    if handle = member.peer.handle then some (.engineCalled source handle call) else none
  | .marked mark => if mark.isOn member.peer then some (.marked mark) else none
  | _ => none

def World.traffic (world : World σ Mark) (member : Member) : List (Moment Mark) :=
  world.trace.toList.filterMap (Moment.of? member)

theorem World.traffic_push (world : World σ Mark) (moment : Moment Mark) (member : Member) :
    (world.push moment).traffic member = world.traffic member ++ (moment.of? member).toList :=
  world.filterMap_push moment (Moment.of? member)

namespace Member

/-- What is the member's. -/
def own (member : Member) : Scope :=
  ⟨False, False, (· = member.peer.handle), (· = member.peer.entry), (· = member.target),
    False.elim⟩

/-- What is not the member's. -/
def others (member : Member) : Scope :=
  ⟨False, False, (· ≠ member.peer.handle), (· ≠ member.peer.entry), (· ≠ member.target),
    False.elim⟩

/-- The member's handle, registration and target go together. There is no factory
and no failure that members could have in common. -/
structure Apart (member : Member) (world : World σ Mark) : Prop where
  factory : world.factory = none
  works : world.runtime.Works
  named : (world.entry? member.peer.entry).map Entry.handle = some member.peer.handle
  names {entry registration} (found : world.entry? entry = some registration) :
      registration.handle = member.peer.handle ↔ entry = member.peer.entry
  bound {handle entry} (found : world.own.registry.lookup? handle = some entry) :
      handle = member.peer.handle ↔ entry = member.peer.entry
  pinned {entry target} (pin : (world.life entry).pin = some target) :
      target = member.target ↔ entry = member.peer.entry

variable {member : Member} {world : World σ Mark}

namespace Apart

theorem setLife (apart : Apart member world) {entry : EntryId} {life : Lifecycle}
    (pins : ∀ target, life.pin = some target →
      (target = member.target ↔ entry = member.peer.entry)) :
    Apart member (world.setLife entry life) where
  factory := apart.factory
  works := apart.works
  named := by
    rw [World.entry?_setLife]
    by_cases same : member.peer.entry = entry
    · rw [if_pos same, ← same, Option.map_map]
      exact apart.named
    · rw [if_neg same]
      exact apart.named
  names {other registration} found := by
    rw [World.entry?_setLife] at found
    by_cases same : other = entry
    · rw [if_pos same] at found
      obtain ⟨before, there, rfl⟩ := Option.map_eq_some_iff.mp found
      have names := apart.names there
      rw [same]
      exact names
    · rw [if_neg same] at found
      exact apart.names found
  bound := apart.bound
  pinned {other target} pin := by
    by_cases same : other = entry
    · rw [same] at pin ⊢
      cases there : world.entry? entry with
      | some registration =>
          rw [World.life_setLife_self there] at pin
          exact pins target pin
      | none =>
          have absent : World.entry? (world.setLife entry life) entry = none := by
            rw [World.entry?_setLife, if_pos rfl, there, Option.map_none]
          rw [World.life_of_absent absent] at pin
          cases pin
    · rw [World.life_setLife_of_ne life same] at pin
      exact apart.pinned pin

theorem unbound (apart : Apart member world) (handle : Handle) :
    Apart member (world.unbound handle) :=
  { apart with
    bound := fun {other entry} found => by
      have lookup : (world.own.registry.erase handle).lookup? other = some entry := found
      rw [Registry.lookup?_erase] at lookup
      by_cases freed : other = handle
      · rw [if_pos freed] at lookup
        cases lookup
      · rw [if_neg freed] at lookup
        exact apart.bound lookup }

theorem idles (apart : Apart member world) {after : World σ Mark} (idles : world.Idles after) :
    Apart member after := by
  cases idles with
  | runtime works => exact { apart with works := works }
  | noted works notice => exact { apart with works := works }

end Apart

end Member

/-! ## Hosts of compartments -/

/-- A host that keeps something for each target, and something for each handle of
the engine. It holds some connections for good, and others it never holds. -/
structure Compartments (M N : Type) where
  target : TargetId → M
  engine : Handle → N
  holds : EntryId → Bool

instance {M N : Type} : Custodian (Compartments M N) where
  knows host entry := host.holds entry
  forget _ host := (none, host)

namespace Member

variable {M N : Type} {member : Member} {world twin after : World (Compartments M N) Mark}

/-- The member has the same part of both worlds. -/
structure Alike (member : Member) (world twin : World (Compartments M N) Mark) : Prop where
  config : world.config = twin.config
  sizes : world.entries.size = twin.entries.size
  lookup : world.own.registry.lookup? member.peer.handle =
    twin.own.registry.lookup? member.peer.handle
  life : world.life member.peer.entry = twin.life member.peer.entry
  engaged : world.engaged.count member.peer.entry = twin.engaged.count member.peer.entry
  target : world.host.target member.target = twin.host.target member.target
  engine : world.host.engine member.peer.handle = twin.host.engine member.peer.handle
  holds : world.host.holds = twin.host.holds
  traffic : world.traffic member = twin.traffic member

namespace Alike

theorem refl (member : Member) (world : World (Compartments M N) Mark) :
    Alike member world world :=
  ⟨rfl, rfl, rfl, rfl, rfl, rfl, rfl, rfl, rfl⟩

theorem symm (alike : Alike member world twin) : Alike member twin world where
  config := alike.config.symm
  sizes := alike.sizes.symm
  lookup := alike.lookup.symm
  life := alike.life.symm
  engaged := alike.engaged.symm
  target := alike.target.symm
  engine := alike.engine.symm
  holds := alike.holds.symm
  traffic := alike.traffic.symm

theorem trans (one : Alike member world twin) (two : Alike member twin after) :
    Alike member world after where
  config := one.config.trans two.config
  sizes := one.sizes.trans two.sizes
  lookup := one.lookup.trans two.lookup
  life := one.life.trans two.life
  engaged := one.engaged.trans two.engaged
  target := one.target.trans two.target
  engine := one.engine.trans two.engine
  holds := one.holds.trans two.holds
  traffic := one.traffic.trans two.traffic

end Alike

/-- The member is apart in both worlds, and has the same part of both. -/
structure Matches (member : Member) (world twin : World (Compartments M N) Mark) : Prop where
  here : Apart member world
  there : Apart member twin
  alike : Alike member world twin

namespace Matches

theorem push (matched : Matches member world twin) {moment moment' : Moment Mark}
    (same : moment.of? member = moment'.of? member) :
    Matches member (world.push moment) (twin.push moment') where
  here := { matched.here with }
  there := { matched.there with }
  alike := { matched.alike with
    traffic := by rw [World.traffic_push, World.traffic_push, matched.alike.traffic, same] }

/-- Another thread is running. -/
theorem onThread (matched : Matches member world twin) (thread : ThreadId) :
    Matches member { world with thread } { twin with thread } :=
  ⟨{ matched.here with }, { matched.there with }, { matched.alike with }⟩

theorem isHeld (matched : Matches member world twin) :
    Custody.isHeld world member.peer.entry = Custody.isHeld twin member.peer.entry := by
  have binds {world : World (Compartments M N) Mark} (apart : Apart member world) :
      world.binds member.peer.entry =
        (world.own.registry.lookup? member.peer.handle == some member.peer.entry) := by
    obtain ⟨registration, found, named⟩ := Option.map_eq_some_iff.mp apart.named
    unfold World.binds
    rw [found, Option.any_some, named]
  have engaged (world : World (Compartments M N) Mark) :
      world.engaged.contains member.peer.entry =
        decide (0 < world.engaged.count member.peer.entry) := by
    simp [List.count_pos_iff]
  unfold Custody.isHeld
  rw [binds matched.here, binds matched.there, matched.alike.lookup, engaged, engaged,
    matched.alike.engaged]
  show (_ || _ || world.host.holds _) = (_ || _ || twin.host.holds _)
  rw [matched.alike.holds]

theorem setLife (matched : Matches member world twin) {life : Lifecycle}
    (pinned : life.PinsTo member.own.targets) :
    Matches member (world.setLife member.peer.entry life)
      (twin.setLife member.peer.entry life) := by
  have pins : ∀ target, life.pin = some target →
      (target = member.target ↔ member.peer.entry = member.peer.entry) :=
    fun target pin => ⟨fun _ => rfl, fun _ => pinned target pin⟩
  have lives {world : World (Compartments M N) Mark} (apart : Apart member world) :
      (world.setLife member.peer.entry life).life member.peer.entry = life := by
    obtain ⟨registration, found, _⟩ := Option.map_eq_some_iff.mp apart.named
    exact World.life_setLife_self found life
  refine ⟨matched.here.setLife pins, matched.there.setLife pins, { matched.alike with
    sizes := ?_
    life := by rw [lives matched.here, lives matched.there] }⟩
  simp [World.setLife, matched.alike.sizes]

theorem unbound (matched : Matches member world twin) :
    Matches member (world.unbound member.peer.handle) (twin.unbound member.peer.handle) where
  here := matched.here.unbound _
  there := matched.there.unbound _
  alike := { matched.alike with
    lookup := by simp [World.unbound, Registry.lookup?_erase] }

/-- Nothing of what a target knows is let go with it. -/
theorem forgetTarget_runs (target : TargetId) (world : World (Compartments M N) Mark) :
    Custody.forgetTarget target world = (.ok none, world) := by
  unfold Custody.forgetTarget
  split <;> rfl

/-- What is done for the member comes to the same for it. -/
theorem bond : Bond member.own (Matches member : Link (Compartments M N) (Compartments M N)) where
  config matched := matched.alike.config
  factory matched := matched.here.factory.trans matched.there.factory.symm
  factoryless matched := .inl matched.here.factory
  sizes matched := matched.alike.sizes
  lookup {_ _} matched {handle} owns := by
    obtain rfl : handle = member.peer.handle := owns
    exact matched.alike.lookup
  bound matched _ owns _ found := (matched.here.bound found).mp owns
  named {_ _} matched {entry} owns := by
    obtain rfl : entry = member.peer.entry := owns
    rw [matched.here.named, matched.there.named]
  names matched _ owns _ found := (matched.here.names found).mpr owns
  life {_ _} matched {entry} owns := by
    obtain rfl : entry = member.peer.entry := owns
    exact .inl matched.alike.life
  pinned matched _ owns _ pin := (matched.here.pinned pin).mpr owns
  isHeld {_ _} matched {entry} owns := by
    obtain rfl : entry = member.peer.entry := owns
    exact matched.isHeld
  setLife {_ _} matched {entry} owns life life' alike pinned := by
    obtain rfl : entry = member.peer.entry := owns
    obtain rfl : life = life' := alike.resolve_right And.left
    exact matched.setLife pinned
  push matched _ _ tells := by
    rw [Scope.same_of_tells id tells]
    exact matched.push rfl
  hookRan _ isFree := absurd isFree id
  count matched _ := ⟨{ matched.here with }, { matched.there with }, { matched.alike with }⟩
  engage {_ _} matched {entry} _ := ⟨{ matched.here with }, { matched.there with }, { matched.alike with
    engaged := by simp [List.count_cons, matched.alike.engaged] }⟩
  disengage {_ _} matched {entry} _ := ⟨{ matched.here with }, { matched.there with },
    { matched.alike with engaged := by simp [List.count_erase, matched.alike.engaged] }⟩
  lent matched _ := ⟨{ matched.here with }, { matched.there with }, { matched.alike with }⟩
  unbound {_ _} matched {handle} owns := by
    obtain rfl : handle = member.peer.handle := owns
    exact matched.unbound
  forget {world twin} matched target _ := by
    rw [forgetTarget_runs, forgetTarget_runs]
    refine ⟨.given ⟨rfl, fun entry knows => ?_⟩, matched⟩
    cases knows
  bind _ enrols := enrols.elim

/-! ### What is done for others -/

theorem symm (matched : Matches member world twin) : Matches member twin world :=
  ⟨matched.there, matched.here, matched.alike.symm⟩

theorem beside (matched : Matches member world twin) (apart : Apart member after)
    (alike : Alike member after world) : Matches member after twin :=
  ⟨apart, matched.there, alike.trans matched.alike⟩

end Matches

/-- Moments of others do not concern the member. -/
theorem of?_of_others {moment : Moment Mark} (tells : member.others.Tells moment moment) :
    moment.of? member = none := by
  have strange {call : BridgeCall} (permits : member.others.Permits call call) :
      call.isOn member.peer = false := by
    cases permits with
    | openOutbound | adoptInbound => rfl
    | native owns => exact decide_eq_false owns
    | socket owns => exact decide_eq_false owns
  cases tells with
  | noted | hookRan | engineAsked | factoryAsked => rfl
  | forwarded owns => exact if_neg owns.handle
  | returned enrols => exact enrols.elim
  | called permits => simp [Moment.of?, Mark.isOn, strange permits]
  | replied permits => simp [Moment.of?, Mark.isOn, strange permits]

theorem Matches.idles (matched : Matches member world twin) (idles : world.Idles after) :
    Matches member after twin := by
  refine matched.beside (matched.here.idles idles) ?_
  cases idles with
  | runtime => exact { Alike.refl member world with }
  | noted =>
      refine { Alike.refl member world with traffic := ?_ }
      exact (World.traffic_push _ _ member).trans (List.append_nil _)

/-- What is done for others leaves the member's part as it is. -/
theorem enclave (member : Member) (twin : World (Compartments M N) Mark) :
    Enclave member.others fun world => Matches member world twin where
  strict := id
  factoryless inside := .inl inside.here.factory
  bound inside _ owns _ found := fun same => owns ((inside.here.bound found).mpr same)
  names inside _ owns _ found := fun same => owns ((inside.here.names found).mp same)
  pinned inside _ owns _ pin := fun same => owns ((inside.here.pinned pin).mp same)
  setLife {world} inside {entry} owns life pinned := by
    have pins : ∀ target, life.pin = some target →
        (target = member.target ↔ entry = member.peer.entry) :=
      fun target pin => ⟨fun same => absurd same (pinned target pin), fun same => absurd same owns⟩
    refine inside.beside (inside.here.setLife pins) { Alike.refl member world with
      sizes := ?_
      life := World.life_setLife_of_ne life (Ne.symm owns) }
    simp [World.setLife]
  push {world} inside moment tells := by
    refine inside.beside { inside.here with } { Alike.refl member world with traffic := ?_ }
    rw [World.traffic_push, of?_of_others tells]
    exact List.append_nil _
  count {world} inside _ := inside.beside { inside.here with } { Alike.refl member world with }
  engage {world} inside {entry} owns := by
    refine inside.beside { inside.here with } { Alike.refl member world with engaged := ?_ }
    exact List.count_cons_of_ne owns
  disengage {world} inside {entry} owns := by
    refine inside.beside { inside.here with } { Alike.refl member world with engaged := ?_ }
    exact List.count_erase_of_ne (Ne.symm owns)
  lent {world} inside _ := inside.beside { inside.here with } { Alike.refl member world with }
  unbound {world} inside {handle} owns := by
    refine inside.beside (inside.here.unbound handle)
      { Alike.refl member world with lookup := ?_ }
    have kept := Registry.lookup?_erase world.own.registry handle member.peer.handle
    rwa [if_neg (Ne.symm owns)] at kept
  forget {world} inside target _ := by
    refine ⟨none, world, Matches.forgetTarget_runs target world, inside, fun entry knows => ?_⟩
    cases knows
  bind _ enrols := enrols.elim

/-! ## Accords -/

/-- The worlds match for the member. -/
def matching (member : Member) : Ties (Compartments M N) (Compartments M N) :=
  fun link => link = Matches member

/-- The worlds of one run, each of which matches another world for the member. -/
def apart (member : Member) : Ties (Compartments M N) (Compartments M N) :=
  fun link => ∃ twin, link = Link.within (Matches member · twin)

theorem accord_matching (member : Member) :
    Accord member.own (member.matching : Ties (Compartments M N) (Compartments M N)) where
  bond := by
    rintro _ rfl
    exact Matches.bond
  context {peer} _ {target} _ event body body' inStep := by
    rintro _ rfl world twin matched
    obtain ⟨held, ready, begun, runs⟩ :=
      Attachment.withAttachedContext_of_works matched.here.works event.name
    obtain ⟨held', ready', begun', runs'⟩ :=
      Attachment.withAttachedContext_of_works matched.there.works event.name
    -- the callback may begin on a thread that is attached here and not there
    have called := ((matched.idles begun).symm.idles begun').symm.push
      (show Moment.of? member (.callback peer target event ready.attached?) =
        Moment.of? member (.callback peer target event ready'.attached?) from rfl)
    obtain ⟨answers, ended⟩ := inStep _ rfl _ _ called
    obtain ⟨after, dropped, idles⟩ := Attachment.drop_of_works ended.here.works held
    obtain ⟨after', dropped', idles'⟩ := Attachment.drop_of_works ended.there.works held'
    have ran := runs (do witness (.callback peer target event (← get).attached?); body) _ _ after
      rfl dropped
    have ran' := runs' (do witness (.callback peer target event (← get).attached?); body') _ _ after'
      rfl dropped'
    rw [ran, ran']
    refine ⟨?_, ((ended.idles idles).symm.idles idles').symm⟩
    exact answers.eq ▸ .refl (fun _ => rfl) _

theorem accord_apart (member : Member) :
    Accord member.others (member.apart : Ties (Compartments M N) (Compartments M N)) where
  bond := by
    rintro _ ⟨twin, rfl⟩
    exact (member.enclave twin).bond
  context {peer} _ {target} ownsTarget event body body' inStep := by
    rintro _ ⟨twin, rfl⟩ world _ ⟨rfl, inside⟩
    obtain ⟨held, ready, begun, runs⟩ :=
      Attachment.withAttachedContext_of_works inside.here.works event.name
    have ready' := inside.idles begun
    have called : Matches member (ready.push (.callback peer target event ready.attached?)) twin := by
      refine ready'.beside { ready'.here with } { Alike.refl member ready with traffic := ?_ }
      rw [World.traffic_push, Moment.of?, if_neg ownsTarget]
      exact List.append_nil _
    obtain ⟨answers, same, ended⟩ := inStep _ ⟨twin, rfl⟩ _ _ ⟨rfl, called⟩
    obtain ⟨after, dropped, idles⟩ := Attachment.drop_of_works ended.here.works held
    have ran := runs (do witness (.callback peer target event (← get).attached?); body) _ _ after
      rfl dropped
    have ran' := runs (do witness (.callback peer target event (← get).attached?); body') _ _ after
      rfl (same ▸ dropped)
    rw [ran, ran']
    refine ⟨?_, rfl, ended.idles idles⟩
    exact answers.eq ▸ .refl (fun _ => rfl) _

end Member

end TransportBridge
