import TransportBridge.Proofs.Receives

/-!
Contract: the hooks of buffers, dealt out by the calls that come with them.

A report that comes with a buffer has its hooks to deal out: to the queue of a
registration, when the bytes come in, or to nobody, when it drops the buffer.

Owns: what a call can still deal out, and that nothing but a report's own
dropping and its callback takes from that.
-/

namespace TransportBridge

/-! ## Dealing out -/

namespace Frame

/-- The hooks that the call comes with. -/
def given (frame : Frame) : List Hook :=
  match frame.call with
  | .native _ event => event.hooks
  | _ => []

/-- The hooks that go to a queue when the bytes of the call come in. -/
def lent (frame : Frame) : List Hook :=
  match frame.call with
  | .native _ (.received data) => data.lentHooks
  | _ => []

/-- The hooks that the call can still deal out: all of them, until a hook has
run, and until those that are lent have come in. -/
def undealt (frame : Frame) : List Hook :=
  if frame.hooks = [] ∧ (frame.callbacks = [] ∨ frame.lent = []) then frame.given else []

variable {frame : Frame}

theorem lent_sublist (frame : Frame) : frame.lent.Sublist frame.given := by
  unfold lent given
  split
  · next data same =>
      rw [same]
      exact data.lentHooks_sublist
  · exact List.nil_sublist _

/-- Whatever the call does, it has no more to deal out than before. -/
theorem undealt_extend (frame : Frame) (own : List (Moment Mark)) :
    (undealt { frame with own := frame.own ++ own }).Sublist frame.undealt := by
  unfold undealt hooks callbacks
  simp only [List.filterMap_append, List.filter_append, List.append_eq_nil_iff]
  split
  · next deals =>
      obtain ⟨⟨clean, _⟩, silent⟩ := deals
      rw [if_pos ⟨clean, silent.imp_left And.left⟩]
      exact .refl _
  · exact List.nil_sublist _

end Frame

namespace Reading

variable {reading middle after : Reading} {frame : Frame} {outer : List Frame}

/-- How often calls have come with the hook. -/
def given (reading : Reading) (hook : Hook) : Nat :=
  (reading.records.map (·.given.count hook)).sum

/-- How often calls can still deal the hook out. -/
def undealt (reading : Reading) (hook : Hook) : Nat :=
  (reading.records.map (·.undealt.count hook)).sum

/-- Hooks are dealt out, of those that calls have come with. -/
def Deals (reading : Reading) (dealt : List Hook) (after : Reading) : Prop :=
  ∀ hook, after.undealt hook + dealt.count hook + reading.given hook ≤
    reading.undealt hook + after.given hook

theorem Deals.refl (reading : Reading) : reading.Deals [] reading := by
  intro hook
  simp

theorem Deals.trans {one two : List Hook} (first : reading.Deals one middle)
    (second : middle.Deals two after) : reading.Deals (one ++ two) after := by
  intro hook
  have before := first hook
  have later := second hook
  rw [List.count_append]
  omega

/-- The innermost call does something. -/
theorem deals_of_extended {own : List (Moment Mark)} {dealt : List Hook}
    (frames : reading.frames = frame :: outer)
    (extended : after.frames = Frame.extend own reading.frames)
    (ended : after.ended = reading.ended)
    (deals : ∀ hook, (Frame.undealt { frame with own := frame.own ++ own }).count hook +
      dealt.count hook ≤ frame.undealt.count hook) : reading.Deals dealt after := by
  intro hook
  have one := deals hook
  have same : Frame.given { frame with own := frame.own ++ own } = frame.given := rfl
  unfold undealt given records
  rw [extended, frames, ended]
  simp only [Frame.extend, List.cons_append, List.map_cons, List.sum_cons, same]
  omega

theorem deals_of_own (reading : Reading) {moment : Moment Mark} (own : moment.isOwn = true) :
    reading.Deals [] (reading.read moment) := by
  have read := read_own reading own
  cases frames : reading.frames with
  | nil =>
      intro hook
      unfold undealt given records
      rw [read, frames]
      simp [Frame.extend]
  | cons frame outer =>
      refine deals_of_extended frames (by rw [read]) (by rw [read]) fun hook => ?_
      exact (frame.undealt_extend [moment]).count_le hook

theorem deals_of_called (reading : Reading) (call : BridgeCall) :
    reading.Deals [] (reading.read (.marked (.called call))) := by
  intro hook
  have begun : Frame.undealt { call } = Frame.given { call } := rfl
  have first : (reading.read (.marked (.called call))).records = { call } :: reading.records := rfl
  unfold undealt given
  rw [first, List.map_cons, List.map_cons, List.sum_cons, List.sum_cons, begun, List.count_nil]
  omega

/-- A call that has ended has what it had. -/
theorem deals_of_replied (reading : Reading) (call : BridgeCall) (reply : Reply) :
    reading.Deals [] (reading.read (.marked (.replied call reply))) := by
  cases frames : reading.frames with
  | nil =>
      unfold read
      simp only [frames]
      exact .refl reading
  | cons frame outer =>
      intro hook
      unfold undealt given records read
      simp only [frames, List.map_append, List.map_cons, List.map_nil, List.sum_append,
        List.sum_cons, List.sum_nil, List.cons_append, List.count_nil]
      omega

/-- Nothing that happens adds to what there is to deal out, but calls that
begin. -/
theorem deals_foldl (reading : Reading) (done : List (Moment Mark)) :
    reading.Deals [] (done.foldl read reading) := by
  induction done generalizing reading with
  | nil => exact .refl reading
  | cons moment rest inductionHypothesis =>
      have one : reading.Deals [] (reading.read moment) := by
        cases moment with
        | noted => exact .refl reading
        | marked mark =>
            cases mark with
            | called call => exact deals_of_called reading call
            | replied call reply => exact deals_of_replied reading call reply
        | _ => exact deals_of_own reading rfl
      exact one.trans (inductionHypothesis _)

end Reading

namespace World

variable {σ : Type} {world : World σ Mark}

/-- A report that drops its buffer deals the hooks out. -/
theorem Drops.deals {hooks : List Hook} (drops : world.Drops hooks) :
    world.reading.Deals hooks ((hooks.map .hookRan).foldl Reading.read world.reading) := by
  obtain ⟨frame, outer, handle, event, frames, call, clean, silent, of⟩ := drops
  rw [Reading.foldl_hooks]
  refine Reading.deals_of_extended frames rfl rfl fun hook => ?_
  have given : frame.given = event.hooks := by
    unfold Frame.given
    rw [call]
  have undealt : frame.undealt = event.hooks := by
    refine (if_pos ⟨clean, ?_⟩).trans given
    by_cases received : event.kind = .received
    · exact .inl (silent received)
    · right
      unfold Frame.lent
      rw [call]
      cases event <;> first | rfl | exact absurd rfl received
  cases hooks with
  | nil => exact (frame.undealt_extend []).count_le hook
  | cons first rest =>
      have spent :
          Frame.undealt { frame with own := frame.own ++ (first :: rest).map .hookRan } = [] := by
        refine if_neg fun deals => ?_
        simp [Frame.hooks, Moment.hook?] at deals
      rw [spent, undealt, List.count_nil, Nat.zero_add]
      exact of.count_le hook

/-- A report whose bytes come in deals out what is lent. -/
theorem Reports.deals {handle : Handle} {event : NativeEvent} (reports : world.Reports handle event)
    (peer : Peer) (target : TargetId) (attached : Option Bool) :
    world.reading.Deals (lentBy event.came)
      (world.reading.read (.callback peer target event.told attached)) := by
  obtain ⟨frame, outer, frames, call, silent, clean⟩ := reports
  have read : world.reading.read (.callback peer target event.told attached) = _ :=
    world.reading.read_own rfl
  refine Reading.deals_of_extended frames (by rw [read]) (by rw [read]) fun hook => ?_
  have lent : frame.lent = lentBy event.came := by
    unfold Frame.lent
    rw [call]
    cases event <;> first | rfl | exact (List.append_nil _).symm
  have undealt : frame.undealt = frame.given := if_pos ⟨clean, .inl silent⟩
  rw [undealt, ← lent]
  by_cases nothing : frame.lent = []
  · rw [nothing]
    exact undealt ▸ (frame.undealt_extend _).count_le hook
  · have spent : Frame.undealt
        { frame with own := frame.own ++ [.callback peer target event.told attached] } = [] := by
      refine if_neg fun deals => ?_
      rcases deals.2 with none | none
      · simp [Frame.callbacks, Moment.isCallback] at none
      · exact nothing none
    rw [spent, List.count_nil, Nat.zero_add]
    exact frame.lent_sublist.count_le hook

end World

end TransportBridge
