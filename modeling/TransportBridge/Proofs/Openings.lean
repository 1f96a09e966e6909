import TransportBridge.Proofs.Nesting

/-!
Contract: what the records of calls tell of the opening of a connection.

The flag of the open request is down while its callback runs, and up once the
report has been answered. The engine is told that a connection is open by a
confirmation, which returns or panics over that; and a confirmation returns
only when the engine has been told.

Owns: both, step by step of the calls under way.

Does not own: the state that follows.
-/

namespace TransportBridge

/-- The call has had the engine called: the connection is open on the managed
side. -/
def Frame.Confirms (frame : Frame) (id : EntryId) : Prop :=
  ∃ handle, .engineCalled (some id) handle .opened ∈ frame.own

/-- Only a confirmation asks the engine for that. -/
theorem SocketCall.eq_opened {call : SocketCall} (asked : call.engineCall? = some .opened) :
    call = .opened := by
  cases call <;> first | rfl | cases asked

/-- The report has told one connection of its open request. -/
theorem Frame.Opens.unique {frame : Frame} {id other : EntryId} (opens : frame.Opens id)
    (opening : frame.call.isOpening = true) (fair : Ended.Fair { frame with reply := .done })
    (otherwise : frame.Opens other) : other = id := by
  obtain ⟨call, own⟩ := frame
  cases call with
  | native handle event =>
      have fairTo := fair handle event rfl
      rcases fairTo.told nofun with ⟨told, target, attached, callbacks, _⟩ | ⟨_, panic, panicked⟩
      · have only {peer : Peer} {target : TargetId} {event : SocketEvent} {attached : Option Bool}
            (member : .callback peer target event attached ∈ own) : peer = told := by
          have listed := List.mem_filter.mpr
            ⟨member, (rfl : Moment.isCallback (.callback peer target event attached) = true)⟩
          have alone : own.filter Moment.isCallback = _ := callbacks
          rw [alone, List.mem_singleton] at listed
          injection listed
        obtain ⟨one, _, _, _, _, rfl, first⟩ := opens
        obtain ⟨two, _, _, _, _, rfl, second⟩ := otherwise
        rw [only first, only second]
      · cases panicked
  | _ => cases opening

section Openings

variable {σ : Type} {world after : World σ Mark} {id : EntryId}

namespace World

/-- What a call has done has happened. -/
theorem deed_of_own {record : Frame} {moment : Moment Mark} {deed : Deed}
    (member : record ∈ world.reading.records) (own : moment ∈ record.own)
    (told : moment.deed? id = some deed) : deed ∈ world.deeds id := by
  have happened : moment ∈ world.acts := (Reading.faithful world.acts).own record member own
  exact List.mem_filterMap.mpr ⟨moment, (List.mem_filter.mp happened).1, told⟩

theorem begun_of_opens {record : Frame} (member : record ∈ world.reading.records)
    (opens : record.Opens id) : .callback .openRequest ∈ world.deeds id := by
  obtain ⟨peer, target, address, options, attached, rfl, own⟩ := opens
  exact deed_of_own member own (if_pos rfl)

theorem told_of_confirms {record : Frame} (member : record ∈ world.reading.records)
    (confirms : record.Confirms id) : .forwarded .opened ∈ world.deeds id := by
  obtain ⟨handle, own⟩ := confirms
  exact deed_of_own member own (if_pos rfl)

/-! ## Records, step by step -/

theorem mem_frames {frame : Frame} (member : frame ∈ world.reading.frames) :
    frame ∈ world.reading.records :=
  List.mem_append_left _ member

theorem mem_ended {record : Ended} (member : record ∈ world.reading.ended) :
    record.toFrame ∈ world.reading.records :=
  List.mem_append_right _ (List.mem_map_of_mem member)

/-- The innermost call may have done more. -/
theorem records_of_goesOn {more : List (Moment Mark)}
    (frames : after.reading.frames = Frame.extend more world.reading.frames)
    (ended : after.reading.ended = world.reading.ended) {record : Frame}
    (member : record ∈ after.reading.records) :
    record ∈ world.reading.records ∨ ∃ frame outer, world.reading.frames = frame :: outer ∧
      record = { frame with own := frame.own ++ more } := by
  unfold Reading.records at member ⊢
  rw [frames, ended] at member
  cases under : world.reading.frames with
  | nil =>
      rw [under] at member
      exact .inl member
  | cons frame outer =>
      rw [under] at member
      rcases List.mem_cons.mp member with rfl | other
      · exact .inr ⟨frame, outer, rfl, rfl⟩
      · exact .inl (List.mem_cons_of_mem _ other)

/-- A call has just begun. -/
theorem records_of_begins (call : BridgeCall) {record : Frame}
    (member : record ∈ (world.push (.marked (.called call))).reading.records) :
    record ∈ world.reading.records ∨ record = { call } := by
  rw [reading_called] at member
  exact (List.mem_cons.mp member).symm

/-- A call that ends leaves its record. -/
theorem records_of_ends {frame : Frame} {outer : List Frame}
    (frames : world.reading.frames = frame :: outer) (call : BridgeCall) (reply : Reply) :
    (∀ record, record ∈ (world.push (.marked (.replied call reply))).reading.records ↔
      record ∈ world.reading.records) := by
  intro record
  rw [reading_replied frames]
  simp only [Reading.records, frames, List.map_append, List.map_cons, List.map_nil,
    List.mem_append, List.mem_cons, List.not_mem_nil, or_false]
  tauto

/-- A step adds nothing to the records but what it may add to that of the
innermost call. -/
theorem Proceeds.records (step : world.Proceeds after) {record : Frame}
    (member : record ∈ after.reading.records) :
    record ∈ world.reading.records ∨ record.own = [] ∨
      ∃ frame outer more, world.reading.frames = frame :: outer ∧
        (∀ moment ∈ more, world.Permits moment) ∧
        record = { frame with own := frame.own ++ more } := by
  cases step with
  | goesOn frames ended permitted =>
      refine (records_of_goesOn frames ended member).imp_right ?_
      rintro ⟨frame, outer, under, rfl⟩
      exact .inr ⟨frame, outer, _, under, permitted, rfl⟩
  | begins call =>
      refine (records_of_begins call member).imp_right ?_
      rintro rfl
      exact .inl rfl
  | ends frames => exact .inl ((records_of_ends frames _ _ record).mp member)
  | opened _ frames => exact .inl ((records_of_ends frames _ _ record).mp member)

/-! ## Open requests -/

/-- What the records tell of the open request of a connection. Reports of open
requests tell of it, no two of those under way do, and the flag goes up as such
a report is answered. -/
structure Openings (world : World σ Mark) (id : EntryId) : Prop where
  called : ∀ record ∈ world.reading.records, record.Opens id → record.call.isOpening = true
  single : world.reading.frames.Pairwise fun inner outer => inner.Opens id → ¬ outer.Opens id
  pending : ∀ frame ∈ world.reading.frames, frame.Opens id →
    (world.life id).openDispatched = false
  returned : ∀ record ∈ world.reading.ended, record.Opens id → record.reply = .done →
    (world.life id).openDispatched = true

/-- The callback of an open request that begins is the first of its
connection. -/
theorem Permits.opens {frame : Frame} {outer : List Frame} {more : List (Moment Mark)}
    (frames : world.reading.frames = frame :: outer)
    (permitted : ∀ moment ∈ more, world.Permits moment)
    (opens : ({ frame with own := frame.own ++ more } : Frame).Opens id) :
    frame.Opens id ∨ frame.call.isOpening = true ∧
      (∀ record ∈ world.reading.records, ¬ record.Opens id) ∧
      (world.life id).openDispatched = false := by
  obtain ⟨peer, target, address, options, attached, rfl, own⟩ := opens
  rcases List.mem_append.mp own with before | now
  · exact .inl ⟨peer, target, address, options, attached, rfl, before⟩
  · obtain ⟨⟨innermost, _, same, opening⟩, unbegun, undispatched⟩ := permitted _ now
    obtain ⟨rfl, rfl⟩ := List.cons.inj (frames.symm.trans same)
    exact .inr ⟨opening, fun record member opens => unbegun (begun_of_opens member opens),
      undispatched⟩

theorem Openings.called_after (openings : world.Openings id) (step : world.Proceeds after)
    {record : Frame} (member : record ∈ after.reading.records) (opens : record.Opens id) :
    record.call.isOpening = true := by
  rcases step.records member with old | bare | ⟨frame, outer, more, frames, permitted, rfl⟩
  · exact openings.called record old opens
  · obtain ⟨_, _, _, _, _, _, own⟩ := opens
    rw [bare] at own
    cases own
  · rcases Permits.opens frames permitted opens with before | ⟨opening, _⟩
    · exact openings.called frame (mem_frames (frames ▸ List.mem_cons_self)) before
    · exact opening

/-- The innermost call goes on. -/
private theorem Openings.goesOn (openings : world.Openings id) (step : world.Proceeds after)
    {more : List (Moment Mark)}
    (frames : after.reading.frames = Frame.extend more world.reading.frames)
    (ended : after.reading.ended = world.reading.ended)
    (permitted : ∀ moment ∈ more, world.Permits moment) (dispatch : world.SameDispatch after) :
    after.Openings id := by
  have called : ∀ record ∈ after.reading.records, record.Opens id →
      record.call.isOpening = true := fun _ => openings.called_after step
  have returned : ∀ record ∈ after.reading.ended, record.Opens id → record.reply = .done →
      (after.life id).openDispatched = true := by
    rw [ended, dispatch]
    exact openings.returned
  cases under : world.reading.frames with
  | nil =>
      have nothing : after.reading.frames = [] := by rw [frames, under]; rfl
      refine ⟨called, ?_, ?_, returned⟩ <;> rw [nothing]
      · exact .nil
      · exact List.forall_mem_nil _
  | cons frame outer =>
      have grown : after.reading.frames = { frame with own := frame.own ++ more } :: outer := by
        rw [frames, under]
        rfl
      obtain ⟨alone, rest⟩ := List.pairwise_cons.mp (under ▸ openings.single)
      obtain ⟨pending, others⟩ := List.forall_mem_cons.mp (under ▸ openings.pending)
      refine ⟨called, ?_, ?_, returned⟩ <;> rw [grown]
      · refine List.pairwise_cons.mpr ⟨fun other member opens => ?_, rest⟩
        rcases Permits.opens under permitted opens with before | ⟨_, unopened, _⟩
        · exact alone other member before
        · exact unopened other (mem_frames (under ▸ List.mem_cons_of_mem _ member))
      · rw [dispatch]
        refine List.forall_mem_cons.mpr ⟨fun opens => ?_, others⟩
        rcases Permits.opens under permitted opens with before | ⟨_, _, undispatched⟩
        · exact pending before
        · exact undispatched

/-- The innermost call ends. It is no open request that is answered, or it is
this one and the flag is up. -/
private theorem Openings.ends (openings : world.Openings id) (step : world.Proceeds after)
    {frame : Frame} {outer : List Frame} {reply : Reply}
    (under : world.reading.frames = frame :: outer) (frames : after.reading.frames = outer)
    (ended : after.reading.ended = world.reading.ended ++ [{ frame with reply }])
    (dispatch : (after.life id).openDispatched = (world.life id).openDispatched ∧
        (frame.Opens id → reply ≠ .done) ∨
      frame.Opens id ∧ (after.life id).openDispatched = true) : after.Openings id := by
  have called : ∀ record ∈ after.reading.records, record.Opens id →
      record.call.isOpening = true := fun _ => openings.called_after step
  obtain ⟨alone, rest⟩ := List.pairwise_cons.mp (under ▸ openings.single)
  obtain ⟨_, others⟩ := List.forall_mem_cons.mp (under ▸ openings.pending)
  refine ⟨called, frames ▸ rest, fun other member opens => ?_, fun record member opens done => ?_⟩
  · rw [frames] at member
    rcases dispatch with ⟨same, _⟩ | ⟨opened, _⟩
    · rw [same]
      exact others other member opens
    · exact (alone other member opened opens).elim
  · rw [ended] at member
    rcases dispatch with ⟨same, unopened⟩ | ⟨_, dispatched⟩
    · rw [same]
      rcases List.mem_append.mp member with old | last
      · exact openings.returned record old opens done
      · obtain rfl := List.mem_singleton.mp last
        exact (unopened opens done).elim
    · exact dispatched

theorem Openings.proceeds (openings : world.Openings id) (step : world.Proceeds after) :
    after.Openings id := by
  cases step with
  | goesOn frames ended permitted forwarded dispatch =>
      exact openings.goesOn (.goesOn frames ended permitted forwarded dispatch) frames ended
        permitted dispatch
  | begins call =>
      have reading := world.reading_called call
      refine ⟨fun _ => openings.called_after (.begins world call), ?_, ?_, ?_⟩ <;> rw [reading]
      · refine List.pairwise_cons.mpr ⟨fun _ _ opens => ?_, openings.single⟩
        obtain ⟨_, _, _, _, _, _, own⟩ := opens
        cases own
      · refine List.forall_mem_cons.mpr ⟨fun opens => ?_, openings.pending⟩
        obtain ⟨_, _, _, _, _, _, own⟩ := opens
        cases own
      · exact openings.returned
  | @ends frame outer reply frames unopened heard confirmed =>
      have reading := reading_replied frames frame.call reply
      refine openings.ends (.ends frames unopened heard confirmed) frames
        (congrArg Reading.frames reading) (congrArg Reading.ended reading) (.inl ⟨rfl, ?_⟩)
      exact fun opens =>
        unopened (openings.called frame (mem_frames (frames ▸ List.mem_cons_self)) opens)
  | @opened frame outer peer genuine frames opening opens fair =>
      have reading := reading_replied frames frame.call .done
      have step := Proceeds.opened genuine frames opening opens fair
      obtain ⟨entry, found, _⟩ := genuine
      let finished := world.setLife peer.entry (world.life peer.entry).finishOpen.2
      have same : (finished.push (.marked (.replied frame.call .done))).reading =
        (world.push (.marked (.replied frame.call .done))).reading := rfl
      refine openings.ends step frames (congrArg Reading.frames (same.trans reading))
        (congrArg Reading.ended (same.trans reading)) ?_
      by_cases own : id = peer.entry
      · subst own
        refine .inr ⟨opens, ?_⟩
        show (finished.life peer.entry).openDispatched = true
        rw [life_setLife_self found]
        exact Lifecycle.finishOpen_openDispatched _
      · refine .inl ⟨?_, fun otherwise => (own (opens.unique opening fair otherwise)).elim⟩
        show (finished.life id).openDispatched = _
        rw [life_setLife_of_ne _ own]

/-! ## Confirmations -/

/-- What the records tell of the confirmations of a connection. Only a
confirmation has the engine called to open it, one that has been heard ends in
no error, and what has been heard stays on record. -/
structure Confirmations (world : World σ Mark) (id : EntryId) : Prop where
  asked : ∀ record ∈ world.reading.records, record.Confirms id → record.call = .socket id .opened
  heard : ∀ record ∈ world.reading.ended, record.call = .socket id .opened →
    record.own = [] ∨ record.reply = .done ∨ ∃ panic, record.reply = .panicked panic
  told : ∀ record ∈ world.reading.ended, record.call = .socket id .opened →
    record.reply = .done → .forwarded .opened ∈ world.deeds id
  listed : .forwarded .opened ∈ world.deeds id → ∃ record ∈ world.reading.records,
    record.Confirms id

/-- The engine is called by a call that asks for it. -/
theorem Permits.confirms {frame : Frame} {outer : List Frame} {more : List (Moment Mark)}
    (frames : world.reading.frames = frame :: outer)
    (permitted : ∀ moment ∈ more, world.Permits moment)
    (confirms : ({ frame with own := frame.own ++ more } : Frame).Confirms id) :
    frame.Confirms id ∨ frame.call = .socket id .opened := by
  obtain ⟨handle, own⟩ := confirms
  rcases List.mem_append.mp own with before | now
  · exact .inl ⟨handle, before⟩
  · obtain ⟨innermost, _, call, same, made, asked⟩ := permitted _ now
    obtain ⟨rfl, rfl⟩ := List.cons.inj (frames.symm.trans same)
    rw [SocketCall.eq_opened asked] at made
    exact .inr made

theorem Confirmations.asked_after (confirmations : world.Confirmations id)
    (step : world.Proceeds after) {record : Frame} (member : record ∈ after.reading.records)
    (confirms : record.Confirms id) : record.call = .socket id .opened := by
  rcases step.records member with old | bare | ⟨frame, outer, more, frames, permitted, rfl⟩
  · exact confirmations.asked record old confirms
  · obtain ⟨_, own⟩ := confirms
    rw [bare] at own
    cases own
  · rcases Permits.confirms frames permitted confirms with before | made
    · exact confirmations.asked frame (mem_frames (frames ▸ List.mem_cons_self)) before
    · exact made

/-- The innermost call goes on, and nothing is lost from the records. -/
private theorem listed_of_goesOn {more : List (Moment Mark)}
    (frames : after.reading.frames = Frame.extend more world.reading.frames)
    (ended : after.reading.ended = world.reading.ended)
    (permitted : ∀ moment ∈ more, world.Permits moment)
    (listed : (∃ record ∈ world.reading.records, record.Confirms id) ∨
      ∃ handle, .engineCalled (some id) handle .opened ∈ more) :
    ∃ record ∈ after.reading.records, record.Confirms id := by
  cases under : world.reading.frames with
  | nil =>
      rcases listed with ⟨record, member, confirms⟩ | ⟨handle, now⟩
      · refine ⟨record, ?_, confirms⟩
        unfold Reading.records at member ⊢
        rw [under] at member
        rw [frames, ended, under]
        exact member
      · obtain ⟨_, _, _, same, _⟩ := permitted _ now
        cases under.symm.trans same
  | cons frame outer =>
      have grown : after.reading.frames = { frame with own := frame.own ++ more } :: outer := by
        rw [frames, under]
        rfl
      have innermost : { frame with own := frame.own ++ more } ∈ after.reading.records :=
        mem_frames (grown ▸ List.mem_cons_self)
      rcases listed with ⟨record, member, confirms⟩ | ⟨handle, now⟩
      · unfold Reading.records at member
        rw [under] at member
        rcases List.mem_cons.mp member with rfl | other
        · obtain ⟨handle, own⟩ := confirms
          exact ⟨_, innermost, handle, List.mem_append_left _ own⟩
        · refine ⟨record, ?_, confirms⟩
          unfold Reading.records
          rw [grown, ended]
          exact List.mem_cons_of_mem _ other
      · exact ⟨_, innermost, handle, List.mem_append_right _ now⟩

/-- A call ends that has not confirmed, or as a confirmation does. -/
private theorem Confirmations.ends (confirmations : world.Confirmations id)
    (step : world.Proceeds after) {frame : Frame} {reply : Reply}
    (ended : after.reading.ended = world.reading.ended ++ [{ frame with reply }])
    (records : ∀ record, record ∈ after.reading.records ↔ record ∈ world.reading.records)
    (forwarded : .forwarded .opened ∈ after.deeds id ↔ .forwarded .opened ∈ world.deeds id)
    (heard : frame.call = .socket id .opened →
      frame.own = [] ∨ reply = .done ∨ ∃ panic, reply = .panicked panic)
    (confirmed : frame.call = .socket id .opened → reply = .done →
      .forwarded .opened ∈ world.deeds id) : after.Confirmations id := by
  refine ⟨fun _ => confirmations.asked_after step, ?_, ?_, fun told => ?_⟩
  · rw [ended]
    intro record member made
    rcases List.mem_append.mp member with old | last
    · exact confirmations.heard record old made
    · obtain rfl := List.mem_singleton.mp last
      exact heard made
  · rw [ended]
    intro record member made done
    rw [forwarded]
    rcases List.mem_append.mp member with old | last
    · exact confirmations.told record old made done
    · obtain rfl := List.mem_singleton.mp last
      exact confirmed made done
  · obtain ⟨record, member, confirms⟩ := confirmations.listed (forwarded.mp told)
    exact ⟨record, (records record).mpr member, confirms⟩

theorem Confirmations.proceeds (confirmations : world.Confirmations id)
    (step : world.Proceeds after) : after.Confirmations id := by
  have asked : ∀ record ∈ after.reading.records, record.Confirms id →
      record.call = .socket id .opened := fun _ => confirmations.asked_after step
  cases step with
  | goesOn frames ended permitted forwarded =>
      refine ⟨asked, ended ▸ confirmations.heard, ?_, fun told => ?_⟩
      · rw [ended]
        exact fun record member made done =>
          (forwarded id .opened).mpr (.inl (confirmations.told record member made done))
      · refine listed_of_goesOn frames ended permitted ?_
        exact ((forwarded id .opened).mp told).imp_left confirmations.listed
  | begins call =>
      have reading := world.reading_called call
      have forwarded := world.forwarded_mark (.called call) id .opened
      refine ⟨asked, ?_, ?_, fun told => ?_⟩
      · rw [reading]
        exact confirmations.heard
      · rw [reading, forwarded]
        exact confirmations.told
      · obtain ⟨record, member, confirms⟩ := confirmations.listed (forwarded.mp told)
        rw [reading]
        exact ⟨record, List.mem_cons_of_mem _ member, confirms⟩
  | @ends frame outer reply frames unopened heard confirmed =>
      have reading := reading_replied frames frame.call reply
      exact confirmations.ends (.ends frames unopened heard confirmed)
        (congrArg Reading.ended reading) (records_of_ends frames _ _)
        (world.forwarded_mark _ id .opened) (heard id) (confirmed id)
  | @opened frame outer peer genuine frames opening opens fair =>
      have reading := reading_replied frames frame.call .done
      have other : frame.call ≠ .socket id .opened := by
        intro made
        rw [made] at opening
        cases opening
      exact confirmations.ends (.opened genuine frames opening opens fair)
        (congrArg Reading.ended reading) (records_of_ends frames _ _)
        (world.forwarded_mark _ id .opened) (fun made => (other made).elim)
        fun made => (other made).elim

end World

end Openings

end TransportBridge
