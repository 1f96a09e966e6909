import TransportBridge.Proofs.Effects

/-!
Contract: two computations of the bridge that go in step.

A link relates the worlds of two runs. Computations are in step if from worlds
that are linked they end in worlds that are linked, and alike: both give a
result, and the results are alike, or both panic, and for the same reason. What
is to be shown of one run alone is a link of two runs that are the same.

Owns: links, and the rules of sequencing, of cleaning up and of calls.

Does not own: which links the bridge's own steps keep.
-/

namespace TransportBridge

variable {σ τ α β γ δ ε : Type}

/-- How the worlds of two runs are related. -/
abbrev Link (σ τ : Type) := World σ Mark → World τ Mark → Prop

/-- Both give what is alike, or both refuse for the same reason. -/
inductive Answers (like : α → β → Prop) : Except ε α → Except ε β → Prop where
  | given {result : α} {other : β} (alike : like result other) :
      Answers like (.ok result) (.ok other)
  | refused (error : ε) : Answers like (.error error) (.error error)

theorem Answers.refl {like : α → α → Prop} (each : ∀ result, like result result)
    (answer : Except ε α) : Answers like answer answer := by
  cases answer with
  | error error => exact .refused error
  | ok result => exact .given (each result)

theorem Answers.eq {answer other : Except ε α} (answers : Answers Eq answer other) :
    answer = other := by
  cases answers with
  | given alike => rw [alike]
  | refused error => rfl

theorem Answers.mono {like like' : α → β → Prop} {answer : Except ε α} {other : Except ε β}
    (answers : Answers like answer other)
    (weaker : ∀ result other, like result other → like' result other) :
    Answers like' answer other := by
  cases answers with
  | given alike => exact .given (weaker _ _ alike)
  | refused error => exact .refused error

/-- Two computations have ended alike, in worlds that are linked. -/
structure Ends (link : Link σ τ) (like : α → β → Prop) (ended : Except Panic α × World σ Mark)
    (other : Except Panic β × World τ Mark) : Prop where
  alike : Answers like ended.1 other.1
  linked : link ended.2 other.2

/-- The links that two runs are to keep. -/
abbrev Ties (σ τ : Type) := Link σ τ → Prop

/-- From linked worlds, the computations end alike and in linked worlds. -/
def InStep (ties : Ties σ τ) (like : α → β → Prop) (one : BridgeM σ Mark α)
    (other : BridgeM τ Mark β) : Prop :=
  ∀ link, ties link → ∀ world twin, link world twin → Ends link like (one world) (other twin)

namespace InStep

variable {ties : Ties σ τ} {like : α → β → Prop} {last : γ → δ → Prop}

/-! ## Sequencing -/

theorem pure {result : α} {other : β} (alike : like result other) :
    InStep ties like (Pure.pure result) (Pure.pure other) :=
  fun _ _ _ _ linked => ⟨.given alike, linked⟩

theorem unwind (panic : Panic) :
    InStep ties like (throw panic : BridgeM σ Mark α) (throw panic : BridgeM τ Mark β) :=
  fun _ _ _ _ linked => ⟨.refused panic, linked⟩

theorem bind {first : BridgeM σ Mark α} {first' : BridgeM τ Mark β}
    {next : α → BridgeM σ Mark γ} {next' : β → BridgeM τ Mark δ}
    (one : InStep ties like first first')
    (two : ∀ result other, like result other → InStep ties last (next result) (next' other)) :
    InStep ties last (first >>= next) (first' >>= next') := by
  intro link tied world twin linked
  obtain ⟨answers, middles⟩ := one link tied world twin linked
  cases ran : first world with
  | mk outcome middle =>
      cases ran' : first' twin with
      | mk outcome' middle' =>
          rw [ran, ran'] at answers middles
          cases answers with
          | given alike =>
              rw [bind_of_ok ran, bind_of_ok ran']
              exact two _ _ alike link tied middle middle' middles
          | refused panic =>
              rw [bind_of_error ran, bind_of_error ran']
              exact ⟨.refused panic, middles⟩

theorem andThen {first : BridgeM σ Mark α} {first' : BridgeM τ Mark α}
    {next : α → BridgeM σ Mark γ} {next' : α → BridgeM τ Mark δ}
    (one : InStep ties Eq first first')
    (two : ∀ result, InStep ties last (next result) (next' result)) :
    InStep ties last (first >>= next) (first' >>= next') := by
  refine bind one fun result other same => ?_
  rw [← same]
  exact two result

/-- Where the worlds are looked at, linked worlds are seen. -/
theorem looking {next : World σ Mark → BridgeM σ Mark α} {next' : World τ Mark → BridgeM τ Mark β}
    (rest : ∀ link, ties link → ∀ world twin, link world twin →
      InStep ties like (next world) (next' twin)) :
    InStep ties like ((get : BridgeM σ Mark (World σ Mark)) >>= next)
      ((get : BridgeM τ Mark (World τ Mark)) >>= next') :=
  fun link tied world twin linked => rest link tied world twin linked link tied world twin linked

theorem modify {change : World σ Mark → World σ Mark} {change' : World τ Mark → World τ Mark}
    (kept : ∀ link, ties link → ∀ world twin, link world twin →
      link (change world) (change' twin)) :
    InStep ties Eq (modify change : BridgeM σ Mark Unit) (modify change') :=
  fun link tied world twin linked => ⟨.given rfl, kept link tied world twin linked⟩

theorem weaken {one : BridgeM σ Mark α} {other : BridgeM τ Mark β} {like' : α → β → Prop}
    (ran : InStep ties like one other)
    (weaker : ∀ result other, like result other → like' result other) :
    InStep ties like' one other := by
  intro link tied world twin linked
  obtain ⟨answers, ended⟩ := ran link tied world twin linked
  exact ⟨answers.mono weaker, ended⟩

theorem forM {items : List α} {body : α → BridgeM σ Mark Unit} {body' : α → BridgeM τ Mark Unit}
    (each : ∀ item, InStep ties Eq (body item) (body' item)) :
    InStep ties Eq (items.forM body) (items.forM body') := by
  induction items with
  | nil => exact .pure rfl
  | cons item rest inductionHypothesis => exact (each item).andThen fun _ => inductionHypothesis

theorem optionForM {item : Option α} {body : α → BridgeM σ Mark Unit}
    {body' : α → BridgeM τ Mark Unit}
    (each : ∀ given, item = some given → InStep ties Eq (body given) (body' given)) :
    InStep ties Eq (item.forM body) (item.forM body') := by
  cases item with
  | none => exact .pure rfl
  | some item => exact each item rfl

/-! ## Cleaning up -/

section Cleaning

variable {body : BridgeM σ Mark α} {body' : BridgeM τ Mark β} {cleanup : BridgeM σ Mark Unit}
  {cleanup' : BridgeM τ Mark Unit}

theorem ensuring (ran : InStep ties like body body') (cleaned : InStep ties Eq cleanup cleanup') :
    InStep ties like (ensuring body cleanup) (ensuring body' cleanup') := by
  intro link tied world twin linked
  obtain ⟨answers, middles⟩ := ran link tied world twin linked
  unfold TransportBridge.ensuring
  generalize body world = ended, body' twin = ended' at answers middles ⊢
  obtain ⟨outcome, middle⟩ := ended
  obtain ⟨outcome', middle'⟩ := ended'
  obtain ⟨cleans, cleared⟩ := cleaned link tied middle middle' middles
  cases answers with
  | refused panic => exact ⟨.refused panic, cleared⟩
  | given alike =>
      simp only
      generalize cleanup middle = finish, cleanup' middle' = finish' at cleans cleared ⊢
      obtain ⟨answer, after⟩ := finish
      obtain ⟨answer', after'⟩ := finish'
      cases cleans with
      | refused panic => exact ⟨.refused panic, cleared⟩
      | given _ => exact ⟨.given alike, cleared⟩

theorem onPanic (ran : InStep ties like body body') (cleaned : InStep ties Eq cleanup cleanup') :
    InStep ties like (onPanic body cleanup) (onPanic body' cleanup') := by
  intro link tied world twin linked
  obtain ⟨answers, middles⟩ := ran link tied world twin linked
  unfold TransportBridge.onPanic
  generalize body world = ended, body' twin = ended' at answers middles ⊢
  obtain ⟨outcome, middle⟩ := ended
  obtain ⟨outcome', middle'⟩ := ended'
  cases answers with
  | given alike => exact ⟨.given alike, middles⟩
  | refused panic =>
      exact ⟨.refused panic, (cleaned link tied middle middle' middles).linked⟩

theorem catchPanic (ran : InStep ties like body body') :
    InStep ties (Answers like) (catchPanic body) (catchPanic body') := by
  intro link tied world twin linked
  obtain ⟨answers, middles⟩ := ran link tied world twin linked
  rw [catchPanic_eq, catchPanic_eq]
  exact ⟨.given answers, middles⟩

end Cleaning

/-! ## Calls -/

theorem callBind {first : Call σ Mark α} {first' : Call τ Mark β} {next : α → Call σ Mark γ}
    {next' : β → Call τ Mark δ} (one : InStep ties (Answers like) first.run first'.run)
    (two : ∀ result other, like result other →
      InStep ties (Answers last) (next result).run (next' other).run) :
    InStep ties (Answers last) (first >>= next).run (first' >>= next').run := by
  refine bind one fun answer other answers => ?_
  cases answers with
  | given alike => exact two _ _ alike
  | refused error => exact .pure (.refused error)

theorem callThen {first : Call σ Mark α} {first' : Call τ Mark α} {next : α → Call σ Mark γ}
    {next' : α → Call τ Mark δ} (one : InStep ties (Answers Eq) first.run first'.run)
    (two : ∀ result, InStep ties (Answers last) (next result).run (next' result).run) :
    InStep ties (Answers last) (first >>= next).run (first' >>= next').run := by
  refine callBind one fun result other same => ?_
  rw [← same]
  exact two result

theorem effect {body : BridgeM σ Mark α} {body' : BridgeM τ Mark β}
    (ran : InStep ties like body body') :
    InStep ties (Answers like) (effect body).run (effect body').run :=
  bind ran fun _ _ alike => .pure (.given alike)

theorem effectBind {first : BridgeM σ Mark α} {first' : BridgeM τ Mark β} {next : α → Call σ Mark γ}
    {next' : β → Call τ Mark δ} (one : InStep ties like first first')
    (two : ∀ result other, like result other →
      InStep ties (Answers last) (next result).run (next' other).run) :
    InStep ties (Answers last) (TransportBridge.effect first >>= next).run
      (TransportBridge.effect first' >>= next').run :=
  callBind (effect one) two

theorem effectThen {first : BridgeM σ Mark α} {first' : BridgeM τ Mark α}
    {next : α → Call σ Mark γ} {next' : α → Call τ Mark δ} (one : InStep ties Eq first first')
    (two : ∀ result, InStep ties (Answers last) (next result).run (next' result).run) :
    InStep ties (Answers last) (TransportBridge.effect first >>= next).run
      (TransportBridge.effect first' >>= next').run :=
  callThen (effect one) two

theorem callPure {result : α} {other : β} (alike : like result other) :
    InStep ties (Answers like) (Pure.pure result : Call σ Mark α).run
      (Pure.pure other : Call τ Mark β).run :=
  .pure (.given alike)

theorem reject (error : BridgeError) :
    InStep ties (Answers like) (throw error : Call σ Mark α).run
      (throw error : Call τ Mark β).run :=
  .pure (.refused error)

theorem callLooking {next : World σ Mark → Call σ Mark α} {next' : World τ Mark → Call τ Mark β}
    (rest : ∀ link, ties link → ∀ world twin, link world twin →
      InStep ties (Answers like) (next world).run (next' twin).run) :
    InStep ties (Answers like) ((get : Call σ Mark (World σ Mark)) >>= next).run
      ((get : Call τ Mark (World τ Mark)) >>= next').run :=
  fun link tied world twin linked => rest link tied world twin linked link tied world twin linked

end InStep

end TransportBridge
