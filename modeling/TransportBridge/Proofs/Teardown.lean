import TransportBridge.Proofs.EventOrder

/-!
Contract: a registration is torn down when both sides are done with it.

Owns: how many references there are after any deeds, that a lifecycle is closed
or disposed of as the closed callback and the references have it, that a release
of nothing is refused, and that the counter of disposals counts the disposed
lifecycles, each once.

Does not own: that a lifecycle is closed once its closed callback has begun.
-/

namespace TransportBridge

/-! ## References among the deeds -/

def Deed.isRetain : Deed → Bool
  | .retained _ => true
  | _ => false

/-- A release that gave a reference up. -/
def Deed.isRelease : Deed → Bool
  | .release .done => true
  | _ => false

def retainsIn (deeds : List Deed) : Nat :=
  deeds.countP Deed.isRetain

def releasesIn (deeds : List Deed) : Nat :=
  deeds.countP Deed.isRelease

theorem retainsIn_concat (deeds : List Deed) (deed : Deed) :
    retainsIn (deeds ++ [deed]) = retainsIn deeds + if deed.isRetain then 1 else 0 := by
  unfold retainsIn
  rw [List.countP_append, List.countP_singleton]

theorem releasesIn_concat (deeds : List Deed) (deed : Deed) :
    releasesIn (deeds ++ [deed]) = releasesIn deeds + if deed.isRelease then 1 else 0 := by
  unfold releasesIn
  rw [List.countP_append, List.countP_singleton]

/-- A release gives a reference up if one is left, and breaks an invariant
otherwise. -/
def ReleasesAnswered (deeds : List Deed) : Prop :=
  ∀ earlier reply later, deeds = earlier ++ .release reply :: later →
    (releasesIn earlier < retainsIn earlier ∧ reply = .done) ∨
    (releasesIn earlier = retainsIn earlier ∧ ∃ handle violation,
      reply = .rejected (.invariantViolation (some handle) violation))

/-- What the deeds of a registration make of its lifecycle while no closed
callback is running. -/
structure Settled (life : Lifecycle) (deeds : List Deed) : Prop where
  counted : life.retainCount + releasesIn deeds =
    (if .callback .closed ∈ deeds then 0 else 1) + retainsIn deeds
  closed : life.state = .closed ↔
    .callback .closed ∈ deeds ∧ releasesIn deeds < retainsIn deeds
  disposed : life.state = .disposed ↔
    .callback .closed ∈ deeds ∧ releasesIn deeds = retainsIn deeds
  answered : ReleasesAnswered deeds

/-! ## Managed references -/

namespace Lifecycle

variable {life next : Lifecycle}

/-- Managed references are what retains have added and releases have not taken
away, and releases were answered by that. -/
structure Accounts (life : Lifecycle) (deeds : List Deed) : Prop where
  managed : life.managedRefs + releasesIn deeds = retainsIn deeds
  answered : ReleasesAnswered deeds

namespace Accounts

variable {deeds : List Deed}

theorem fresh : Accounts {} [] where
  managed := rfl
  answered earlier _ _ split := by cases earlier <;> cases split

/-- What is no retain and no release leaves the account. -/
theorem of_other (accounts : life.Accounts deeds) (same : next.managedRefs = life.managedRefs)
    {deed : Deed} (unretained : deed.isRetain = false)
    (unreleased : ∀ reply, deed ≠ .release reply) :
    next.Accounts (deeds ++ [deed]) where
  managed := by
    have notRelease : deed.isRelease = false := by
      cases deed <;> first | rfl | exact absurd rfl (unreleased _)
    rw [retainsIn_concat, releasesIn_concat, unretained, notRelease, same]
    exact accounts.managed
  answered earlier reply later split := by
    rcases split_concat split with ⟨_, _, last⟩ | ⟨rest, _, before⟩
    · exact absurd last.symm (unreleased reply)
    · exact accounts.answered earlier reply rest before

/-- A release that is answered as it should be. -/
theorem answered_concat (accounts : life.Accounts deeds) {reply : Reply}
    (answer : (life.managedRefs ≠ 0 ∧ reply = .done) ∨
      (life.managedRefs = 0 ∧ ∃ handle violation,
        reply = .rejected (.invariantViolation (some handle) violation))) :
    ReleasesAnswered (deeds ++ [.release reply]) := by
  intro earlier other later split
  have managed := accounts.managed
  rcases split_concat split with ⟨_, rfl, same⟩ | ⟨rest, _, before⟩
  · obtain rfl := Deed.release.inj same
    rcases answer with ⟨left, done⟩ | ⟨none, refused⟩
    · exact .inl ⟨by omega, done⟩
    · exact .inr ⟨by omega, refused⟩
  · exact accounts.answered earlier other rest before

theorem turn (accounts : life.Accounts deeds) (held : life.Held) {told : List Deed}
    (turn : Turn life deeds next told) : next.Accounts told := by
  have managed := accounts.managed
  cases turn with
  | idle => exact accounts
  | registered => exact ⟨managed, accounts.answered⟩
  | called accepts => exact accounts.of_other accepts.keeps.managedRefs rfl nofun
  | missed misses => exact ⟨by rwa [(misses.keeps held).1.managedRefs], accounts.answered⟩
  | opened => exact ⟨by rwa [finishOpen_managedRefs], accounts.answered⟩
  | settled given =>
      obtain ⟨_, _, rfl⟩ := releaseNative_ok given
      exact ⟨by rwa [tryTeardown_managedRefs], accounts.answered⟩
  | forwarded forwards => exact accounts.of_other forwards.keeps.1.managedRefs rfl nofun
  | retained taken =>
      obtain ⟨_, rfl, _⟩ := retain_ok taken
      constructor
      · rw [retainsIn_concat, releasesIn_concat]
        simp only [Deed.isRetain, Deed.isRelease, if_true, Bool.false_eq_true, if_false]
        omega
      · intro earlier reply later split
        rcases split_concat split with ⟨_, _, last⟩ | ⟨rest, _, before⟩
        · cases last
        · exact accounts.answered earlier reply rest before
  | released given =>
      obtain ⟨_, left, rfl⟩ := release_ok given
      refine ⟨?_, accounts.answered_concat (.inl ⟨left, rfl⟩)⟩
      rw [tryTeardown_managedRefs, retainsIn_concat, releasesIn_concat]
      simp only [Deed.isRetain, Deed.isRelease, if_true, Bool.false_eq_true, if_false]
      omega
  | unreleased refused handle =>
      obtain ⟨nothing, violation, rfl⟩ := release_error refused
      have none : life.managedRefs = 0 := by
        rcases nothing with disposed | unmanaged
        · exact (held.disposed disposed).2
        · exact unmanaged
      refine ⟨?_, accounts.answered_concat (.inr ⟨none, handle, _, rfl⟩)⟩
      rw [retainsIn_concat, releasesIn_concat]
      exact managed

end Accounts

/-- Before the closed callback the native side holds its reference. -/
private theorem Accounts.settled_of_live {deeds : List Deed} (accounts : life.Accounts deeds)
    (held : life.Held) (live : life.state.isClosed = false)
    (unclosed : .callback .closed ∉ deeds) : Settled life deeds := by
  have managed := accounts.managed
  refine ⟨?_, ?_, ?_, accounts.answered⟩
  · rw [if_neg unclosed, retainCount, held.native live, if_pos rfl]
    omega
  · constructor
    · intro closed
      rw [closed] at live
      cases live
    · intro both
      exact absurd both.1 unclosed
  · constructor
    · intro disposed
      rw [disposed] at live
      cases live
    · intro both
      exact absurd both.1 unclosed

/-- After the closed callback only managed references are left. -/
private theorem Accounts.settled_of_closed {deeds : List Deed} (accounts : life.Accounts deeds)
    (held : life.Held) (ended : life.state = .closed ∨ life.state = .disposed)
    (given : life.nativeRef = false) (closed : .callback .closed ∈ deeds) :
    Settled life deeds := by
  have managed := accounts.managed
  have counted : life.retainCount = life.managedRefs := by
    rw [retainCount, given]
    exact Nat.zero_add _
  have left : life.state = .closed → 1 ≤ life.managedRefs := by
    intro state
    rw [← counted]
    exact held.closed state
  have none : life.state = .disposed → life.managedRefs = 0 := by
    intro state
    exact (held.disposed state).2
  refine ⟨?_, ?_, ?_, accounts.answered⟩
  · rw [if_pos closed, counted]
    omega
  · constructor
    · intro state
      have := left state
      exact ⟨closed, by omega⟩
    · intro both
      rcases ended with state | state
      · exact state
      · have := none state
        omega
  · constructor
    · intro state
      have := none state
      exact ⟨closed, by omega⟩
    · intro both
      rcases ended with state | state
      · have := left state
        omega
      · exact state

/-- The state and the references, by what both sides have done. -/
theorem Accounts.settled {deeds : List Deed} (accounts : life.Accounts deeds) (held : life.Held)
    (reflects : life.Reflects deeds) (quiet : ¬ life.Closing) : Settled life deeds := by
  have begun := reflects.closed
  cases state : life.state.isClosed with
  | false =>
      rw [state] at begun
      exact accounts.settled_of_live held state (mt begun.mpr Bool.false_ne_true)
  | true =>
      have ended := (SocketState.isClosed_iff life.state).mp state
      have given : life.nativeRef = false := by
        rcases ended with closed | disposed
        · apply Bool.eq_false_iff.mpr
          intro native
          exact quiet ⟨closed, native⟩
        · exact (held.disposed disposed).1
      exact accounts.settled_of_closed held ended given (begun.mp state)

end Lifecycle

/-! ## Disposals -/

namespace World

variable {σ : Type} {world after : World σ Mark} {peer : Peer}

/-- How many registrations are disposed of. -/
def disposals (world : World σ Mark) : Nat :=
  world.entries.countP fun entry => entry.life.state = .disposed

/-- The counter of disposals tells how many registrations are disposed of. -/
def CountsDisposals (world : World σ Mark) : Prop :=
  world.own.metrics.disposed = world.disposals

/-- A changed lifecycle counts instead of the one before it. -/
theorem disposals_setLife {id : EntryId} {entry : Entry} (found : world.entry? id = some entry)
    (next : Lifecycle) :
    (world.setLife id next).disposals + (if entry.life.state = .disposed then 1 else 0) =
      world.disposals + if next.state = .disposed then 1 else 0 := by
  obtain ⟨bound, rfl⟩ := Array.getElem?_eq_some_iff.mp found
  have replaced : (world.setLife id next).entries =
      world.entries.set id.index { world.entries[id.index] with life := next } bound := by
    apply Array.ext
    · simp [setLife]
    · intro index _ _
      simp only [setLife, Array.getElem_modify, Array.getElem_set]
      split
      · next same =>
          subst same
          rfl
      · rfl
  let disposed (entry : Entry) : Bool := entry.life.state = .disposed
  have counts := Array.boole_getElem_le_countP (p := disposed) bound
  unfold disposals
  rw [replaced, Array.countP_set bound]
  simp only [disposed, decide_eq_true_eq] at counts ⊢
  omega

namespace CountsDisposals

theorem plain (counts : world.CountsDisposals) (plain : world.Plain after) :
    after.CountsDisposals := by
  unfold CountsDisposals disposals
  rw [plain.disposed, plain.entries]
  exact counts

theorem push (counts : world.CountsDisposals) (moment : Moment Mark) :
    (world.push moment).CountsDisposals :=
  counts

/-- A lifecycle that is disposed of as it was before. -/
theorem setLife (counts : world.CountsDisposals) (genuine : world.Genuine peer) {next : Lifecycle}
    (same : next.state = .disposed ↔ (world.life peer.entry).state = .disposed) :
    (world.setLife peer.entry next).CountsDisposals := by
  obtain ⟨entry, found, _⟩ := genuine
  have counted := disposals_setLife found next
  rw [life_of_entry found] at same
  simp only [same] at counted
  exact counts.trans (Nat.add_right_cancel counted).symm

theorem keepsHolds (counts : world.CountsDisposals) (genuine : world.Genuine peer)
    {next : Lifecycle} (keeps : (world.life peer.entry).KeepsHolds next) :
    (world.setLife peer.entry next).CountsDisposals :=
  counts.setLife genuine (iff_of_false keeps.stays keeps.notDisposed)

/-- A reference is given up, and the disposal counted if it was the last. -/
theorem concluded (counts : world.CountsDisposals) (genuine : world.Genuine peer)
    {given : Lifecycle} (state : given.state = (world.life peer.entry).state)
    (live : (world.life peer.entry).state ≠ .disposed) :
    (world.concluded peer given.tryTeardown).CountsDisposals := by
  rcases Lifecycle.tryTeardown_cases given with ⟨_, _, torn⟩ | ⟨_, torn⟩
  · rw [torn]
    obtain ⟨entry, found, _⟩ := genuine
    have counted := disposals_setLife found given.tornDown
    have disposed : given.tornDown.state = .disposed := rfl
    rw [life_of_entry found] at live
    rw [if_neg live, if_pos disposed] at counted
    have once : world.own.metrics.disposed + 1 =
        (world.setLife peer.entry given.tornDown).disposals := by
      rw [counts]
      exact counted.symm
    exact once
  · rw [torn]
    exact counts.setLife genuine (by rw [state])

theorem enrolled (counts : world.CountsDisposals) (registry : Registry) (handle : Handle)
    (target : TargetId) : (world.enrolled registry handle target).CountsDisposals := by
  unfold CountsDisposals disposals World.enrolled
  rw [Array.countP_push]
  exact counts

end CountsDisposals

end World

/-- Every stride counts the disposals that it makes. -/
theorem Stride.countsDisposals {σ : Type} {world after : World σ Mark}
    (stride : Stride world after) (sound : world.Sound) (counts : world.CountsDisposals) :
    after.CountsDisposals := by
  cases stride with
  | plain plain => exact counts.plain plain
  | registered inserted plain => exact (counts.enrolled _ _ _).plain plain
  | called genuine accepts plain =>
      exact ((counts.keepsHolds genuine accepts.keeps).plain plain).push _
  | missed genuine misses plain =>
      obtain ⟨keeps, _⟩ := misses.keeps (sound.life_held _)
      exact (counts.keepsHolds genuine keeps).plain plain
  | opened genuine begun plain =>
      exact (counts.setLife genuine (Lifecycle.finishOpen_disposed_iff _)).plain plain
  | settled genuine given plain =>
      obtain ⟨_, closed, rfl⟩ := Lifecycle.releaseNative_ok given
      refine (counts.concluded genuine ?_ ?_).plain plain
      · rfl
      · exact fun disposed => nomatch closed.symm.trans disposed
  | forwarded genuine forwards plain =>
      obtain ⟨keeps, _⟩ := forwards.keeps
      exact ((counts.keepsHolds genuine keeps).plain plain).push _
  | retained genuine taken plain =>
      obtain ⟨_, rfl, _⟩ := Lifecycle.retain_ok taken
      refine ((counts.setLife genuine ?_).plain plain).push _
      exact Iff.rfl
  | released genuine given plain =>
      obtain ⟨disposed, _, rfl⟩ := Lifecycle.release_ok given
      refine ((counts.concluded genuine ?_ disposed).plain plain).push _
      rfl
  | unreleased genuine refused plain => exact (counts.plain plain).push _

/-! ## Runs -/

namespace Reachable

variable {σ : Type} [Custodian σ] {world : World σ Mark}

/-- References agree with the retains and releases so far, also while calls are
under way. -/
theorem accounts (reached : Reachable world) (id : EntryId) :
    (world.life id).Accounts (world.deeds id) :=
  reached.registration .fresh (fun held accounts turn => accounts.turn held turn) id

theorem countsDisposals (reached : Reachable world) : world.CountsDisposals :=
  reached.invariant (fun _ _ => rfl) fun sound counts stride => stride.countsDisposals sound counts

/-- Between the calls at the top, every registration is closed, disposed of and
referred to as the deeds of both sides have it, and each disposal has been
counted once. -/
theorem torn_down_when_both_done (reached : Reachable world) :
    (∀ id, Settled (world.life id) (world.deeds id)) ∧
      world.own.metrics.disposed = world.disposals :=
  ⟨fun id => (reached.accounts id).settled (reached.sound.life_held id) (reached.reflects id)
    (reached.not_closing id), reached.countsDisposals⟩

/-- A connection that is retained twice. Its target gives one reference up when
it is told of the end, and panics. -/
def releasedWithin : World Bystander Mark :=
  let release : SocketEvent → UserCode Bystander Unit
    | .closed _ => .call (.socket ⟨0⟩ .release) fun _ => .unwind .other
    | _ => .finish ()
  (Bystander.answering release).inTurn 2
    [.adoptInbound Bystander.handle ⟨0⟩, .socket ⟨0⟩ .retain, .socket ⟨0⟩ .retain,
      .native Bystander.handle (.closed 0 1000 []), .socket ⟨0⟩ .release, .socket ⟨0⟩ .release]
    Bystander.start

theorem torn_down_of_released_within :
    releasedWithin.callbacks ⟨0⟩ = [.closed] ∧
    retainsIn (releasedWithin.deeds ⟨0⟩) = 2 ∧ releasesIn (releasedWithin.deeds ⟨0⟩) = 2 ∧
    (releasedWithin.life ⟨0⟩).state = .disposed ∧ releasedWithin.own.metrics.disposed = 1 := by
  have begun : releasedWithin.callbacks ⟨0⟩ = [.closed] := by decide +kernel
  have retained : retainsIn (releasedWithin.deeds ⟨0⟩) = 2 := by decide +kernel
  have released : releasesIn (releasedWithin.deeds ⟨0⟩) = 2 := by decide +kernel
  have one : releasedWithin.disposals = 1 := by decide +kernel
  have reached : Reachable releasedWithin := Bystander.reachable_inTurn _ _ _
  obtain ⟨settled, counted⟩ := torn_down_when_both_done reached
  have listed : .closed ∈ releasedWithin.callbacks ⟨0⟩ := by
    rw [begun]
    exact List.mem_cons_self
  have closed : .callback .closed ∈ releasedWithin.deeds ⟨0⟩ := mem_callbacksIn.mp listed
  have disposed : (releasedWithin.life ⟨0⟩).state = .disposed :=
    (settled ⟨0⟩).disposed.mpr ⟨closed, released.trans retained.symm⟩
  have once : releasedWithin.own.metrics.disposed = 1 := counted.trans one
  exact ⟨begun, retained, released, disposed, once⟩

end Reachable

end TransportBridge
