import Mathlib.Data.List.Nodup
import TransportBridge.Proofs.Compartments
import TransportBridge.Proofs.RunPaths

/-!
Contract: connections do not interfere.

The targets act on their own connection and the engine answers with events for
the handle that it has been called for. Then whatever is called on the other
connections of a bridge, a connection has the same replies, callbacks, engine
calls, lifecycle and place in the registry as if it were alone.

Owns: code that keeps to its own connection, rosters of registered connections,
and sessions over them.

Does not own: what calls on one connection do.
-/

namespace TransportBridge

variable {M N α ν μ κ : Type}

/-! ## Code that keeps to its own connection -/

/-- Code with a memory of its own, of type `μ`, that gets to see things of type
`ν` and acts in ways of type `κ`. -/
inductive Conduct (ν μ κ α : Type) where
  | finish (result : α)
  | unwind (panic : Panic)
  | look (next : ν → Conduct ν μ κ α)
  | store (memory : μ) (next : Conduct ν μ κ α)
  | act (own : κ) (next : Reply → Conduct ν μ κ α)

/-- The user code, given what it sees, where its memory is and what its acts
are. -/
def Conduct.code {σ : Type} (sight : World σ Mark → ν) (keep : μ → σ → σ) (made : κ → BridgeCall) :
    Conduct ν μ κ α → UserCode σ α
  | .finish result => .finish result
  | .unwind panic => .unwind panic
  | .look next => .look fun world => (next (sight world)).code sight keep made
  | .store memory next =>
    .rearrange (fun surroundings => { surroundings with host := keep memory surroundings.host })
      (next.code sight keep made)
  | .act own next => .call (made own) fun reply => (next reply).code sight keep made

theorem Conduct.keepsStep {σ : Type} {scope : Scope} {ties : Ties σ σ} {sight : World σ Mark → ν}
    {keep : μ → σ → σ} {made : κ → BridgeCall}
    (seen : ∀ link, ties link → ∀ world twin, link world twin → sight world = sight twin)
    (kept : ∀ link, ties link → ∀ world twin, link world twin → ∀ memory,
      link { world with host := keep memory world.host } { twin with host := keep memory twin.host })
    (permits : ∀ own, scope.Permits (made own) (made own)) (conduct : Conduct ν μ κ α) :
    (conduct.code sight keep made).KeepsStep scope ties (conduct.code sight keep made) := by
  induction conduct with
  | finish result => exact .finish result
  | unwind panic => exact .unwind panic
  | look next inductionHypothesis =>
      refine .look fun link tied world twin linked => ?_
      rw [seen link tied world twin linked]
      exact inductionHypothesis (sight twin)
  | store memory next inductionHypothesis =>
      refine .rearrange (fun link tied world twin linked => ?_) inductionHypothesis
      exact kept link tied world twin linked memory
  | act own next inductionHypothesis => exact .call (permits own) inductionHypothesis

/-- What is done on a connection: an event is reported for its handle, or its
peer is called. -/
inductive OwnCall where
  | native (event : NativeEvent)
  | socket (call : SocketCall)
deriving DecidableEq, Repr

def OwnCall.on (peer : Peer) : OwnCall → BridgeCall
  | .native event => .native peer.handle event
  | .socket call => .socket peer.entry call

theorem OwnCall.permits {scope : Scope} {peer : Peer} (owns : scope.Owns peer) (call : OwnCall) :
    scope.Permits (call.on peer) (call.on peer) := by
  cases call with
  | native event => exact .native owns.handle (.same event)
  | socket call => exact .socket owns.entry call

/-- Targets that see their memory and the lifecycle of the connection that they are
called for, and act on nothing else, and an engine that sees its memory for the
handle that it is called for, and makes events for nothing else. -/
structure PrivateBehaviour (M N : Type) where
  callback : Peer → TargetId → SocketEvent → Conduct (M × Lifecycle) M OwnCall Unit
  engine : Handle → EngineCall → Conduct N N NativeEvent Unit

namespace Compartments

def storeTarget (target : TargetId) (memory : M) (host : Compartments M N) : Compartments M N :=
  { host with target := fun other => if other = target then memory else host.target other }

def storeEngine (handle : Handle) (memory : N) (host : Compartments M N) : Compartments M N :=
  { host with engine := fun other => if other = handle then memory else host.engine other }

end Compartments

def PrivateBehaviour.behaviour (own : PrivateBehaviour M N) : Behaviour (Compartments M N) where
  callback peer target event :=
    (own.callback peer target event).code
      (fun world => (world.host.target target, world.life peer.entry))
      (Compartments.storeTarget target) (OwnCall.on peer)
  engine handle call :=
    (own.engine handle call).code (fun world => world.host.engine handle)
      (Compartments.storeEngine handle) (.native handle)
  createHandle _ _ := .unwind .other
  createTarget _ _ _ _ := .unwind .other

namespace Member

variable {member : Member}

theorem keepsStep_matching (member : Member) (own : PrivateBehaviour M N) :
    own.behaviour.KeepsStep member.own member.matching own.behaviour where
  callback {peer} owns {target} ownsTarget event := by
    obtain rfl : target = member.target := ownsTarget
    have entry : peer.entry = member.peer.entry := owns.entry
    refine Conduct.keepsStep ?_ ?_ ?_ _
    · rintro _ rfl world twin matched
      rw [entry, matched.alike.life, matched.alike.target]
    · rintro _ rfl world twin matched memory
      refine ⟨{ matched.here with }, { matched.there with }, { matched.alike with target := ?_ }⟩
      simp [Compartments.storeTarget]
    · exact OwnCall.permits owns
  engine {handle} owns call := by
    obtain rfl : handle = member.peer.handle := owns
    refine Conduct.keepsStep ?_ ?_ ?_ _
    · rintro _ rfl world twin matched
      exact matched.alike.engine
    · rintro _ rfl world twin matched memory
      refine ⟨{ matched.here with }, { matched.there with }, { matched.alike with engine := ?_ }⟩
      simp [Compartments.storeEngine]
    · exact fun event => .native rfl (.same event)
  createHandle enrols := enrols.elim
  createTarget enrols := enrols.elim

theorem keepsStep_apart (member : Member) (own : PrivateBehaviour M N) :
    own.behaviour.KeepsStep member.others member.apart own.behaviour where
  callback {peer} owns {target} ownsTarget event := by
    refine Conduct.keepsStep ?_ ?_ ?_ _
    · rintro _ ⟨twin, rfl⟩ world _ ⟨rfl, _⟩
      rfl
    · rintro _ ⟨twin, rfl⟩ world _ ⟨rfl, inside⟩ memory
      refine ⟨rfl, inside.beside { inside.here with } { Alike.refl member world with target := ?_ }⟩
      exact if_neg (Ne.symm ownsTarget)
    · exact OwnCall.permits owns
  engine {handle} owns call := by
    refine Conduct.keepsStep ?_ ?_ ?_ _
    · rintro _ ⟨twin, rfl⟩ world _ ⟨rfl, _⟩
      rfl
    · rintro _ ⟨twin, rfl⟩ world _ ⟨rfl, inside⟩ memory
      refine ⟨rfl, inside.beside { inside.here with } { Alike.refl member world with engine := ?_ }⟩
      exact if_neg (Ne.symm owns)
    · exact fun event => .native owns (.same event)
  createHandle enrols := enrols.elim
  createTarget enrols := enrols.elim

/-- A call on the member comes to the same for it in worlds that match. -/
theorem make_own (member : Member) (own : PrivateBehaviour M N) (depth : Nat) (call : OwnCall)
    {world twin : World (Compartments M N) Mark} (matched : Matches member world twin) :
    ((call.on member.peer).make own.behaviour depth world).1 =
        ((call.on member.peer).make own.behaviour depth twin).1 ∧
      Matches member ((call.on member.peer).make own.behaviour depth world).2
        ((call.on member.peer).make own.behaviour depth twin).2 := by
  have owns : member.own.Owns member.peer := ⟨rfl, rfl⟩
  have inStep := member.accord_matching.make (member.keepsStep_matching own) depth
    (call.permits owns)
  obtain ⟨answers, ended⟩ := inStep _ rfl world twin matched
  exact ⟨answers.eq, ended⟩

/-- A call on others does not concern the member. -/
theorem make_others (member : Member) (own : PrivateBehaviour M N) (depth : Nat) (call : OwnCall)
    {peer : Peer} (handle : peer.handle ≠ member.peer.handle)
    (entry : peer.entry ≠ member.peer.entry) {world twin : World (Compartments M N) Mark}
    (matched : Matches member world twin) :
    Matches member ((call.on peer).make own.behaviour depth world).2 twin := by
  have owns : member.others.Owns peer := ⟨handle, entry⟩
  have inStep := member.accord_apart.make (member.keepsStep_apart own) depth (call.permits owns)
  exact (inStep _ ⟨twin, rfl⟩ world world ⟨rfl, matched⟩).linked.2

end Member

/-! ## Rosters -/

/-- Connections to be registered one after the other, no two of which have the
handle or the target in common. -/
structure Roster where
  members : List (Handle × TargetId)
  handles : (members.map Prod.fst).Nodup
  targets : (members.map Prod.snd).Nodup

/-- Just these have been registered, and nothing has happened since. -/
structure Enrolled (members : List (Handle × TargetId)) (world : World σ Mark) : Prop where
  factory : world.factory = none
  works : world.runtime.Works
  entries : world.entries = (members.map fun member =>
    ⟨member.1, member.2, { pin := some member.2 }⟩).toArray
  bound {handle entry} : world.own.registry.lookup? handle = some entry ↔
    (members[entry.index]?).map Prod.fst = some handle

namespace Enrolled

variable {σ : Type} {members : List (Handle × TargetId)} {world : World σ Mark}

theorem fresh (config : Config) {surroundings : Surroundings σ}
    (factoryless : surroundings.factory = none) (works : surroundings.runtime.Works) :
    Enrolled [] (.fresh config surroundings : World σ Mark) where
  factory := factoryless
  works := works
  entries := rfl
  bound := by simp [World.fresh, Registry.empty, Registry.lookup?]

theorem handle?_concat (members : List (Handle × TargetId)) (last : Handle × TargetId)
    (index : Nat) (handle : Handle) :
    ((members ++ [last])[index]?).map Prod.fst = some handle ↔
      (index = members.length ∧ last.1 = handle) ∨
        (members[index]?).map Prod.fst = some handle := by
  rcases Nat.lt_trichotomy index members.length with before | rfl | after
  · rw [List.getElem?_append_left before]
    simp [Nat.ne_of_lt before]
  · simp
  · have size : (members ++ [last]).length ≤ index := by
      rw [List.length_append, List.length_singleton]
      omega
    rw [List.getElem?_eq_none size, List.getElem?_eq_none (Nat.le_of_lt after)]
    simp [Nat.ne_of_gt after]

/-- One more connection is registered. -/
theorem adopted [Custodian σ] (enrolled : Enrolled members world) {handle : Handle}
    (new : handle ∉ members.map Prod.fst) (target : TargetId) (behaviour : Behaviour σ)
    (depth : Nat) :
    Enrolled (members ++ [(handle, target)])
      ((BridgeCall.adoptInbound handle target).make behaviour (depth + 1) world).2 := by
  let called := world.push (.marked (.called (.adoptInbound handle target)))
  have size : called.entries.size = members.length := by
    show world.entries.size = _
    simp [enrolled.entries]
  have absent : world.own.registry.lookup? handle = none := by
    cases found : world.own.registry.lookup? handle with
    | none => rfl
    | some entry =>
        obtain ⟨member, there, rfl⟩ := Option.map_eq_some_iff.mp (enrolled.bound.mp found)
        exact absurd (List.mem_map_of_mem (List.mem_of_getElem? there)) new
  obtain ⟨registry, inserted⟩ : ∃ registry,
      called.own.registry.insert? handle ⟨called.entries.size⟩ = some registry :=
    Registry.exists_insert? absent _
  have registered := Registration.register_of_inserted inserted target
  have performed : BridgeCall.perform (behaviour.host (BridgeCall.make behaviour depth))
      (.adoptInbound handle target) called = _ := bind_of_ok registered
  rw [BridgeCall.make_succ, BridgeCall.replied, performed]
  refine ⟨enrolled.factory, enrolled.works, ?_, ?_⟩
  · show world.entries.push ⟨handle, target, _⟩ = _
    rw [enrolled.entries]
    simp
  · intro other entry
    show registry.lookup? other = some entry ↔ _
    rw [Registry.lookup?_of_insert? inserted, handle?_concat, ← enrolled.bound]
    by_cases same : other = handle
    · rw [if_pos same, same, absent, size]
      cases entry
      simp [eq_comm]
    · simp [same, Ne.symm same, called, World.push]

/-- Each in its turn, all are registered. -/
theorem inTurn [Custodian σ] {behaviour : Behaviour σ} {depth : Nat}
    {rest : List (Handle × TargetId)} (enrolled : Enrolled members world)
    (distinct : ((members ++ rest).map Prod.fst).Nodup) :
    Enrolled (members ++ rest) (behaviour.inTurn (depth + 1)
      (rest.map fun member => .adoptInbound member.1 member.2) world) := by
  induction rest generalizing members world with
  | nil => rwa [List.append_nil]
  | cons next rest inductionHypothesis =>
      have new : next.1 ∉ members.map Prod.fst := by
        rw [List.map_append, List.nodup_append] at distinct
        intro member
        exact distinct.2.2 _ member _ (List.mem_map_of_mem List.mem_cons_self) rfl
      have one := enrolled.adopted new next.2 behaviour depth
      have all := inductionHypothesis one (by simpa using distinct)
      rw [List.append_assoc] at all
      exact all

end Enrolled

namespace Roster

/-- One of the connections. -/
def member (roster : Roster) (index : Fin roster.members.length) : Member :=
  ⟨⟨⟨index⟩, roster.members[index].1⟩, roster.members[index].2⟩

/-- Among distinct keys there is one position for each. -/
theorem key_eq_iff {γ : Type} {items : List γ} {key : γ → κ} (distinct : (items.map key).Nodup)
    {index other : Nat} {one two : γ} (there : items[index]? = some one)
    (there' : items[other]? = some two) : key two = key one ↔ other = index := by
  constructor
  · intro same
    have bound : other < (items.map key).length := by
      rw [List.length_map]
      exact (List.getElem?_eq_some_iff.mp there').1
    apply (List.getElem?_inj bound distinct).mp
    simp [there, there', same]
  · intro same
    rw [same, there] at there'
    rw [Option.some.inj there']

theorem getElem?_index (roster : Roster) (index : Fin roster.members.length) :
    roster.members[index.val]? = some roster.members[index] :=
  List.getElem?_eq_getElem index.isLt

/-- No two connections go by one handle. -/
theorem peer_ne {roster : Roster} {one other : Fin roster.members.length} (distinct : one ≠ other) :
    (roster.member one).peer.handle ≠ (roster.member other).peer.handle ∧
      (roster.member one).peer.entry ≠ (roster.member other).peer.entry := by
  have apart : one.val ≠ other.val := fun same => distinct (Fin.ext same)
  constructor
  · intro same
    apply apart
    apply (key_eq_iff roster.handles (roster.getElem?_index other) (roster.getElem?_index one)).mp
    exact same
  · intro same
    exact apart (congrArg EntryId.index same)

/-- Connections that have just been registered are apart. -/
theorem apart {σ : Type} {roster : Roster} {world : World σ Mark}
    (enrolled : Enrolled roster.members world) (index : Fin roster.members.length) :
    (roster.member index).Apart world := by
  have entries (id : EntryId) : world.entry? id = (roster.members[id.index]?).map fun member =>
      ⟨member.1, member.2, { pin := some member.2 }⟩ := by
    unfold World.entry?
    rw [enrolled.entries]
    simp
  have here := roster.getElem?_index index
  have same {id : EntryId} : id.index = index ↔ id = (roster.member index).peer.entry := by
    cases id
    simp [member]
  refine ⟨enrolled.factory, enrolled.works, ?_, ?_, ?_, ?_⟩
  · rw [entries]
    show Option.map _ (Option.map _ roster.members[index.val]?) = _
    rw [here]
    rfl
  · intro id registration found
    rw [entries] at found
    obtain ⟨other, there, rfl⟩ := Option.map_eq_some_iff.mp found
    exact (key_eq_iff roster.handles here there).trans same
  · intro handle id found
    obtain ⟨other, there, rfl⟩ := Option.map_eq_some_iff.mp (enrolled.bound.mp found)
    exact (key_eq_iff roster.handles here there).trans same
  · intro id target pin
    unfold World.life at pin
    rw [entries] at pin
    cases there : roster.members[id.index]? with
    | none =>
        rw [there] at pin
        cases pin
    | some other =>
        rw [there] at pin
        obtain rfl : other.2 = target := Option.some.inj pin
        exact (key_eq_iff roster.targets here there).trans same

end Roster

/-! ## Sessions -/

section Sessions

variable (own : PrivateBehaviour M N) (roster : Roster) (depth : Nat)

/-- Something is done on one of the connections, on any thread. -/
structure Roster.Turn (roster : Roster) where
  index : Fin roster.members.length
  call : OwnCall
  thread : ThreadId := ⟨0⟩

/-- A bridge with the connections of the roster. -/
def PrivateBehaviour.opening (config : Config) (surroundings : Surroundings (Compartments M N)) :
    World (Compartments M N) Mark :=
  own.behaviour.inTurn (depth + 1)
    (roster.members.map fun member => .adoptInbound member.1 member.2) (.fresh config surroundings)

/-- What has been replied to whom, and the world after it all. -/
def PrivateBehaviour.play : List roster.Turn → World (Compartments M N) Mark →
    List (Fin roster.members.length × Except Panic Reply) × World (Compartments M N) Mark
  | [], world => ([], world)
  | turn :: rest, world =>
    let ended := (turn.call.on (roster.member turn.index).peer).make own.behaviour depth
      { world with thread := turn.thread }
    let played := play rest ended.2
    ((turn.index, ended.1) :: played.1, played.2)

end Sessions

namespace PrivateBehaviour

variable (own : PrivateBehaviour M N) {roster : Roster} (depth : Nat)

/-- What is done on other connections makes no difference. -/
theorem play_matches (script : List roster.Turn) (index : Fin roster.members.length)
    {world twin : World (Compartments M N) Mark}
    (matched : (roster.member index).Matches world twin) :
    ((own.play roster depth script world).1.filter (·.1 = index)) =
        (own.play roster depth (script.filter (·.index = index)) twin).1 ∧
      (roster.member index).Matches (own.play roster depth script world).2
        (own.play roster depth (script.filter (·.index = index)) twin).2 := by
  induction script generalizing world twin with
  | nil => exact ⟨rfl, matched⟩
  | cons turn rest inductionHypothesis =>
      obtain ⟨who, call, thread⟩ := turn
      by_cases mine : who = index
      · subst mine
        have begun := matched.onThread thread
        obtain ⟨same, after⟩ := (roster.member who).make_own own depth call begun
        obtain ⟨replies, last⟩ := inductionHypothesis after
        rw [List.filter_cons_of_pos (by simp)]
        simp only [play]
        rw [List.filter_cons_of_pos (by simp), replies, same]
        exact ⟨rfl, last⟩
      · obtain ⟨handle, entry⟩ := Roster.peer_ne mine
        have begun : (roster.member index).Matches { world with thread } twin :=
          matched.beside { matched.here with } { Member.Alike.refl _ world with }
        have after := (roster.member index).make_others own depth call handle entry begun
        obtain ⟨replies, last⟩ := inductionHypothesis after
        rw [List.filter_cons_of_neg (by simpa using mine)]
        simp only [play]
        rw [List.filter_cons_of_neg (by simpa using mine)]
        exact ⟨replies, last⟩

theorem opening_matches (config : Config) {surroundings : Surroundings (Compartments M N)}
    (factoryless : surroundings.factory = none) (works : surroundings.runtime.Works)
    (index : Fin roster.members.length) :
    (roster.member index).Matches (own.opening roster depth config surroundings)
      (own.opening roster depth config surroundings) := by
  have enrolled : Enrolled roster.members (own.opening roster depth config surroundings) :=
    (Enrolled.fresh config factoryless works).inTurn roster.handles
  exact ⟨Roster.apart enrolled index, Roster.apart enrolled index, .refl _ _⟩

/-- Calls on two connections may be put in the other order. -/
theorem filter_swapped {before after : List roster.Turn} {one other : roster.Turn}
    (distinct : one.index ≠ other.index) (index : Fin roster.members.length) :
    (before ++ one :: other :: after).filter (·.index = index) =
      (before ++ other :: one :: after).filter (·.index = index) := by
  by_cases mine : one.index = index
  · have its : other.index ≠ index := fun same => distinct (mine.trans same.symm)
    simp [mine, its]
  · simp [mine, List.filter_cons]

end PrivateBehaviour

/-- Connections do not interfere: in a session over the connections of a roster,
each of them has the same replies, the same traffic, the same lifecycle and the
same place in the registry as if it had been alone, and calls on two of them may
be put in the other order. -/
theorem PrivateBehaviour.connections_apart (own : PrivateBehaviour M N) (roster : Roster)
    (depth : Nat) (config : Config) {surroundings : Surroundings (Compartments M N)}
    (factoryless : surroundings.factory = none) (works : surroundings.runtime.Works)
    (index : Fin roster.members.length) :
    let session := fun script : List roster.Turn =>
      own.play roster depth script (own.opening roster depth config surroundings)
    (∀ script : List roster.Turn,
      (session script).1.filter (·.1 = index) = (session (script.filter (·.index = index))).1 ∧
      (roster.member index).Alike (session script).2 (session (script.filter (·.index = index))).2) ∧
    ∀ (before after : List roster.Turn) (one other : roster.Turn), one.index ≠ other.index →
      (session (before ++ one :: other :: after)).1.filter (·.1 = index) =
        (session (before ++ other :: one :: after)).1.filter (·.1 = index) ∧
      (roster.member index).Alike (session (before ++ one :: other :: after)).2
        (session (before ++ other :: one :: after)).2 := by
  intro session
  have alone (script : List roster.Turn) := own.play_matches depth script index
    (own.opening_matches depth config factoryless works index)
  refine ⟨fun script => ⟨(alone script).1, (alone script).2.alike⟩, ?_⟩
  intro before after one other distinct
  obtain ⟨replies, forth⟩ := alone (before ++ one :: other :: after)
  obtain ⟨replies', back⟩ := alone (before ++ other :: one :: after)
  rw [filter_swapped distinct] at replies forth
  exact ⟨replies.trans replies'.symm, forth.alike.trans back.alike.symm⟩

/-! ### Two connections of one bridge -/

namespace Compartments

/-- Targets count their callbacks and write back what comes in. The engine ends a
connection that the managed side has closed. -/
def echoing : PrivateBehaviour Nat Unit where
  callback _ _ event := .look fun sight => .store (sight.1 + 1) <|
    match event with
    | .received bytes => .act (.socket (.write bytes)) fun _ => .finish ()
    | _ => .finish ()
  engine _ call :=
    match call with
    | .closed _ => .act (.closed 1 0 []) fun _ => .finish ()
    | _ => .finish ()

def couple : Roster where
  members := [(Bystander.handle, ⟨0⟩), (⟨9, by decide⟩, ⟨1⟩)]
  handles := by decide
  targets := by decide

def first : Fin couple.members.length := ⟨0, by decide⟩

def second : Fin couple.members.length := ⟨1, by decide⟩

/-- A bridge over a simulated runtime, whose host holds the second connection. -/
def around : Surroundings (Compartments Nat Unit) :=
  ⟨.simulated {}, ⟨0⟩, none, ⟨fun _ => 0, fun _ => (), fun entry => entry.index = 1⟩⟩

/-- The first connection is closed, and events for it come in after its end; some
calls come from a second thread. -/
def overlapping : List couple.Turn :=
  let opening : OwnCall := .native (.openRequest ⟨"stream", "near", 1, ""⟩ (.borrowed []))
  [{ index := first, call := opening }, { index := second, call := opening },
    { index := second, call := .native (.received (.borrowed [1, 2])), thread := ⟨1⟩ },
    { index := first, call := .native (.received (.transferable [3])) },
    { index := first, call := .socket (.closed .success), thread := ⟨1⟩ },
    { index := second, call := .socket .retain },
    { index := first, call := .native (.received (.transferable [4])) },
    { index := second, call := .native (.writeCompleted 1) }]

end Compartments

theorem PrivateBehaviour.connections_apart_of_overlapping :
    let last := (Compartments.echoing.play Compartments.couple 2 Compartments.overlapping
      (Compartments.echoing.opening Compartments.couple 2 {} Compartments.around)).2
    let alone := (Compartments.echoing.play Compartments.couple 2
      (Compartments.overlapping.filter (·.index = Compartments.first))
      (Compartments.echoing.opening Compartments.couple 2 {} Compartments.around)).2
    Compartments.around.factory = none ∧ Compartments.around.runtime.Works ∧
    (last.life ⟨0⟩).state = .disposed ∧ (last.life ⟨1⟩).retainCount = 2 ∧
    last.host.target ⟨0⟩ = 3 ∧ last.host.target ⟨1⟩ = 3 ∧
    (Compartments.couple.member Compartments.first).Alike last alone := by
  have works : Compartments.around.runtime.Works := ⟨rfl, rfl, rfl⟩
  refine ⟨rfl, works, by decide +kernel, by decide +kernel, by decide +kernel, by decide +kernel, ?_⟩
  exact ((connections_apart Compartments.echoing Compartments.couple 2 {} rfl works
    Compartments.first).1
    Compartments.overlapping).2

end TransportBridge
