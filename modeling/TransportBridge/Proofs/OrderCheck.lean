import Mathlib.Computability.RegularExpressions
import TransportBridge.Conformance.Recording
import TransportBridge.Proofs.EventOrder

/-!
Contract: what the order check of a recording target accepts.

Owns: the language of a connection's events as a regular expression; that one
event more leaves the language exactly when it is out of order there; and, by
induction on the calls, that a recording holds every event in the order in which
they were delivered, one violation for each event that is out of order, and none
exactly when the events are a word of the language.
Does not own: in which order the bridge delivers events.
-/

namespace TransportBridge

/-! ## The language of a connection -/

/-- One event of the stream. -/
def streamEvent : RegularExpression EventKind :=
  .char .writeCompleted + .char .received + .char .closeRequest

/-- An open request and the events of its stream, if at all; the closed event
last, if at all. -/
def eventOrder : RegularExpression EventKind :=
  (1 + .char .openRequest * .star streamEvent) * (1 + .char .closed)

/-- Nothing yet, or an open request and then events of the stream. -/
def Unclosed (kinds : List EventKind) : Prop :=
  kinds = [] ∨ ∃ stream, kinds = .openRequest :: stream ∧ ∀ kind ∈ stream, kind.isStream = true

theorem mem_streamEvent_iff (kinds : List EventKind) :
    kinds ∈ streamEvent.matches' ↔ ∃ kind, kinds = [kind] ∧ kind.isStream = true := by
  rw [streamEvent, RegularExpression.matches'_add, RegularExpression.matches'_add,
    Language.mem_add, Language.mem_add]
  constructor
  · rintro ((told | told) | told)
    · exact ⟨.writeCompleted, told, rfl⟩
    · exact ⟨.received, told, rfl⟩
    · exact ⟨.closeRequest, told, rfl⟩
  · rintro ⟨kind, rfl, streams⟩
    cases kind with
    | writeCompleted => exact .inl (.inl rfl)
    | received => exact .inl (.inr rfl)
    | closeRequest => exact .inr rfl
    | openRequest => cases streams
    | closed => cases streams

theorem mem_star_streamEvent_iff (kinds : List EventKind) :
    kinds ∈ streamEvent.star.matches' ↔ ∀ kind ∈ kinds, kind.isStream = true := by
  rw [RegularExpression.matches'_star, Language.mem_kstar]
  constructor
  · rintro ⟨words, rfl, each⟩ kind member
    obtain ⟨word, among, within⟩ := List.mem_flatten.mp member
    obtain ⟨only, rfl, streams⟩ := (mem_streamEvent_iff word).mp (each word among)
    rwa [List.mem_singleton.mp within]
  · intro streams
    refine ⟨kinds.map fun kind => [kind], ?_, ?_⟩
    · rw [← List.flatMap_def, List.flatMap_singleton']
    · intro word member
      obtain ⟨kind, among, rfl⟩ := List.mem_map.mp member
      exact (mem_streamEvent_iff [kind]).mpr ⟨kind, rfl, streams kind among⟩

theorem mem_opening_iff (kinds : List EventKind) :
    kinds ∈ (1 + .char .openRequest * .star streamEvent :
      RegularExpression EventKind).matches' ↔ Unclosed kinds := by
  rw [RegularExpression.matches'_add, RegularExpression.matches'_mul, Language.mem_add,
    Language.mem_mul]
  constructor
  · rintro (none | ⟨_, rfl, stream, within, rfl⟩)
    · exact .inl none
    · exact .inr ⟨stream, rfl, (mem_star_streamEvent_iff stream).mp within⟩
  · rintro (none | ⟨stream, rfl, each⟩)
    · exact .inl none
    · exact .inr ⟨_, rfl, stream, (mem_star_streamEvent_iff stream).mpr each, rfl⟩

/-- A word of the language is closed or not. -/
theorem mem_eventOrder_iff (kinds : List EventKind) :
    kinds ∈ eventOrder.matches' ↔
      Unclosed kinds ∨ ∃ earlier, Unclosed earlier ∧ kinds = earlier ++ [.closed] := by
  rw [eventOrder, RegularExpression.matches'_mul, Language.mem_mul]
  constructor
  · rintro ⟨earlier, opening, closing, none | last, rfl⟩
    · have unclosed := (mem_opening_iff earlier).mp opening
      rw [(Language.mem_one closing).mp none, List.append_nil]
      exact .inl unclosed
    · have closes : closing = [.closed] := last
      exact .inr ⟨earlier, (mem_opening_iff earlier).mp opening, by rw [closes]⟩
  · rintro (unclosed | ⟨earlier, unclosed, rfl⟩)
    · exact ⟨kinds, (mem_opening_iff kinds).mpr unclosed, [], .inl rfl, List.append_nil kinds⟩
    · exact ⟨earlier, (mem_opening_iff earlier).mpr unclosed, [.closed], .inr rfl, rfl⟩

/-! ## One event more -/

/-- An event comes after the closed event, opens a second time, or is of a
stream that was not opened. -/
def OutOfOrder (earlier : List EventKind) (kind : EventKind) : Prop :=
  .closed ∈ earlier ∨ (kind = .openRequest ∧ .openRequest ∈ earlier) ∨
    (kind.isStream = true ∧ .openRequest ∉ earlier)

instance (earlier : List EventKind) (kind : EventKind) : Decidable (OutOfOrder earlier kind) := by
  unfold OutOfOrder
  infer_instance

namespace Unclosed

theorem closed_not_mem {kinds : List EventKind} (unclosed : Unclosed kinds) :
    .closed ∉ kinds := by
  rcases unclosed with rfl | ⟨stream, rfl, each⟩
  · exact List.not_mem_nil
  · intro member
    rcases List.mem_cons.mp member with opens | within
    · cases opens
    · cases each .closed within

/-- What may follow: the open request first, events of the stream then. -/
theorem concat_iff (kinds : List EventKind) (kind : EventKind) :
    Unclosed (kinds ++ [kind]) ↔
      Unclosed kinds ∧ kind ≠ .closed ∧ ¬OutOfOrder kinds kind := by
  constructor
  · rintro (none | ⟨stream, joined, each⟩)
    · simp at none
    · cases kinds with
      | nil =>
        obtain ⟨rfl, -⟩ := List.cons.inj joined
        exact ⟨.inl rfl, by decide, by simp [OutOfOrder, EventKind.isStream]⟩
      | cons first rest =>
        obtain ⟨rfl, rfl⟩ := List.cons.inj joined
        have streams : kind.isStream = true := each kind (by simp)
        have unclosed : Unclosed (.openRequest :: rest) :=
          .inr ⟨rest, rfl, fun other member => each other (by simp [member])⟩
        have unopening : kind ≠ .openRequest ∧ kind ≠ .closed := by
          constructor <;> rintro rfl <;> cases streams
        refine ⟨unclosed, unopening.2, ?_⟩
        rintro (after | ⟨again, -⟩ | ⟨-, unopened⟩)
        · exact unclosed.closed_not_mem after
        · exact unopening.1 again
        · exact unopened (by simp)
  · rintro ⟨rfl | ⟨stream, rfl, each⟩, notClosed, inOrder⟩
    · have opens : kind = .openRequest := by
        cases kind <;> simp_all [OutOfOrder, EventKind.isStream]
      exact .inr ⟨[], by rw [opens]; rfl, by simp⟩
    · have streams : kind.isStream = true := by
        cases kind <;> simp_all [OutOfOrder, EventKind.isStream]
      refine .inr ⟨stream ++ [kind], rfl, ?_⟩
      intro other member
      rcases List.mem_append.mp member with within | last
      · exact each other within
      · rwa [List.mem_singleton.mp last]

end Unclosed

/-- One event more stays within the language unless it is out of order. -/
theorem concat_mem_eventOrder_iff (kinds : List EventKind) (kind : EventKind) :
    kinds ++ [kind] ∈ eventOrder.matches' ↔
      kinds ∈ eventOrder.matches' ∧ ¬OutOfOrder kinds kind := by
  rw [mem_eventOrder_iff, mem_eventOrder_iff, Unclosed.concat_iff]
  constructor
  · rintro (⟨unclosed, -, inOrder⟩ | ⟨earlier, unclosed, joined⟩)
    · exact ⟨.inl unclosed, inOrder⟩
    · obtain ⟨rfl, last⟩ := List.append_inj' joined rfl
      obtain rfl : kind = .closed := by simpa using last
      refine ⟨.inl unclosed, ?_⟩
      rintro (after | ⟨opens, -⟩ | ⟨streams, -⟩)
      · exact unclosed.closed_not_mem after
      · cases opens
      · cases streams
  · rintro ⟨unclosed | ⟨earlier, unclosed, rfl⟩, inOrder⟩
    · by_cases closes : kind = .closed
      · exact .inr ⟨kinds, unclosed, by rw [closes]⟩
      · exact .inl ⟨unclosed, closes, inOrder⟩
    · exact absurd (.inl (by simp)) inOrder

/-! ## The positions that are out of order -/

/-- The event at a position is out of order after those before it. -/
def OutOfOrderAt (kinds : List EventKind) (position : Nat) : Prop :=
  ∃ kind ∈ kinds[position]?, OutOfOrder (kinds.take position) kind

instance (kinds : List EventKind) (position : Nat) : Decidable (OutOfOrderAt kinds position) := by
  unfold OutOfOrderAt
  infer_instance

/-- How many events are out of order. -/
def disorder (kinds : List EventKind) : Nat :=
  (List.range kinds.length).countP fun position => OutOfOrderAt kinds position

theorem outOfOrderAt_concat_of_lt {kinds : List EventKind} {position : Nat}
    (earlier : position < kinds.length) (kind : EventKind) :
    OutOfOrderAt (kinds ++ [kind]) position ↔ OutOfOrderAt kinds position := by
  unfold OutOfOrderAt
  rw [List.getElem?_append_left earlier, List.take_append_of_le_length (Nat.le_of_lt earlier)]

theorem outOfOrderAt_concat_length (kinds : List EventKind) (kind : EventKind) :
    OutOfOrderAt (kinds ++ [kind]) kinds.length ↔ OutOfOrder kinds kind := by
  simp [OutOfOrderAt]

theorem disorder_concat (kinds : List EventKind) (kind : EventKind) :
    disorder (kinds ++ [kind]) = disorder kinds + if OutOfOrder kinds kind then 1 else 0 := by
  unfold disorder
  rw [List.length_append, List.length_singleton, List.range_succ, List.countP_append,
    List.countP_singleton]
  congr 1
  · refine List.countP_congr ?_
    intro position member
    have earlier : position < kinds.length := List.mem_range.mp member
    simp only [decide_eq_true_eq]
    exact outOfOrderAt_concat_of_lt earlier kind
  · simp only [decide_eq_true_eq, outOfOrderAt_concat_length]

/-- A word of the language is one without disorder, by induction on its last
event. -/
theorem disorder_eq_zero_iff (kinds : List EventKind) :
    disorder kinds = 0 ↔ kinds ∈ eventOrder.matches' := by
  induction kinds using List.reverseRecOn with
  | nil =>
    have empty : [] ∈ eventOrder.matches' := (mem_eventOrder_iff []).mpr (.inl (.inl rfl))
    exact ⟨fun _ => empty, fun _ => rfl⟩
  | append_singleton earlier kind inductionHypothesis =>
    rw [disorder_concat, concat_mem_eventOrder_iff, ← inductionHypothesis, Nat.add_eq_zero_iff]
    simp

/-! ## The recording -/

namespace Recording

/-- The recording that a fresh target keeps of the calls delivered to it. -/
def ofCalls (cooperative : Bool) (calls : List (Peer × SocketEvent)) : Recording :=
  calls.foldl (fun recording call => recording.record call.1 call.2) { cooperative }

/-- The events that are recorded, by their kinds. -/
def kinds (recording : Recording) : List EventKind :=
  recording.events.toList.map SocketEvent.kind

theorem saw_iff (recording : Recording) (kind : EventKind) :
    recording.saw kind = true ↔ kind ∈ recording.kinds := by
  unfold saw kinds
  rw [← Array.any_toList, List.any_eq_true, List.mem_map]
  simp only [decide_eq_true_eq]

/-- What breaks no rule is in order after what is recorded. -/
theorem violation?_eq_none_iff (recording : Recording) (kind : EventKind) :
    recording.violation? kind = none ↔ ¬OutOfOrder recording.kinds kind := by
  unfold violation? OutOfOrder
  rw [← saw_iff, ← saw_iff]
  cases recording.saw .closed <;> cases recording.saw .openRequest <;> cases kind <;>
    simp [EventKind.isStream]

theorem kinds_record (recording : Recording) (peer : Peer) (event : SocketEvent) :
    (recording.record peer event).kinds = recording.kinds ++ [event.kind] := by
  simp [kinds, record]

theorem size_violations_record (recording : Recording) (peer : Peer) (event : SocketEvent) :
    (recording.record peer event).violations.size =
      recording.violations.size + if OutOfOrder recording.kinds event.kind then 1 else 0 := by
  have decides := recording.violation?_eq_none_iff event.kind
  unfold record
  rw [Array.size_append]
  cases found : recording.violation? event.kind with
  | none => simp [decides.mp found]
  | some violation =>
    have disordered : OutOfOrder recording.kinds event.kind := by
      by_contra inOrder
      rw [decides.mpr inOrder] at found
      cases found
    simp [disordered]

theorem ofCalls_concat (cooperative : Bool) (calls : List (Peer × SocketEvent)) (peer : Peer)
    (event : SocketEvent) :
    ofCalls cooperative (calls ++ [(peer, event)]) =
      (ofCalls cooperative calls).record peer event := by
  simp [ofCalls]

theorem events_ofCalls (cooperative : Bool) (calls : List (Peer × SocketEvent)) :
    (ofCalls cooperative calls).events.toList = calls.map Prod.snd := by
  induction calls using List.reverseRecOn with
  | nil => rfl
  | append_singleton earlier call inductionHypothesis =>
    rw [ofCalls_concat, List.map_append, ← inductionHypothesis]
    simp [record]

theorem size_violations_ofCalls (cooperative : Bool) (calls : List (Peer × SocketEvent)) :
    (ofCalls cooperative calls).violations.size =
      disorder (ofCalls cooperative calls).kinds := by
  induction calls using List.reverseRecOn with
  | nil => rfl
  | append_singleton earlier call inductionHypothesis =>
    rw [ofCalls_concat, size_violations_record, kinds_record, disorder_concat,
      inductionHypothesis]

/-- The check accepts the language and nothing else, leaves one violation for
each event that is out of order, and keeps every event in the order of its
delivery. -/
theorem order_checked (cooperative : Bool) (calls : List (Peer × SocketEvent)) :
    let recording := ofCalls cooperative calls
    let delivered := calls.map fun call => call.2.kind
    (recording.violations = #[] ↔ delivered ∈ eventOrder.matches') ∧
      recording.violations.size = disorder delivered ∧
      recording.events.toList = calls.map Prod.snd := by
  intro recording delivered
  have events : recording.events.toList = calls.map Prod.snd := events_ofCalls cooperative calls
  have same : recording.kinds = delivered := by
    rw [kinds, events, List.map_map]
    rfl
  have size : recording.violations.size = disorder delivered := by
    rw [← same]
    exact size_violations_ofCalls cooperative calls
  have accepted : recording.violations = #[] ↔ delivered ∈ eventOrder.matches' := by
    rw [← Array.size_eq_zero_iff, size, disorder_eq_zero_iff]
  exact ⟨accepted, size, events⟩

end Recording

end TransportBridge
