import TransportBridge.Drill.Buffer

/-!
Contract: which release hook of a native buffer runs, and when.

A buffer carries the hook that was attached to it last, and runs it when it is
dropped. The first transfer of a transferable buffer takes the hook off and
leaves no bytes. It does not keep hooks from being attached later: one that is
attached to a buffer without bytes is carried like any other.

Owns: buffers in use, with the hooks that they carry and those that they have
lost.
-/

namespace TransportBridge.Drill

/-- The runs of hooks of which the last one has run, and none of the others. -/
def onlyLast : Nat → List Nat
  | 0 => []
  | others + 1 => List.replicate others 0 ++ [1]

namespace BufferDrill

/-- The drill after a list of operations. -/
def after (drill : BufferDrill) (ops : List BufferOp) : BufferDrill :=
  ops.foldl (fun drill op => (drill.apply op).2) drill

def answer (drill : BufferDrill) (op : BufferOp) : BufferAnswer :=
  (drill.apply op).1

/-- A buffer that nothing has been done to. -/
def fresh (ownership : Ownership) (data : Bytes) : BufferDrill :=
  ⟨some ⟨some data, ownership, none⟩, []⟩

/-- The newest of the hooks that have been attached since `lost` of them. -/
def newest (lost : Nat) : Nat → Option Nat
  | 0 => none
  | others + 1 => some (lost + others)

/-- A buffer that has not been dropped. So many hooks are lost with a transfer,
and so many have been attached since. -/
def inUse (ownership : Ownership) (data : Option Bytes) (lost attached : Nat) : BufferDrill :=
  ⟨some ⟨data, ownership, newest lost attached⟩, List.replicate (lost + attached) 0⟩

theorem fresh_eq_inUse (ownership : Ownership) (data : Bytes) :
    fresh ownership data = inUse ownership (some data) 0 0 :=
  rfl

variable {ownership : Ownership} {data : Option Bytes} {bytes : Bytes} {lost attached : Nat}
  {op : BufferOp} {ops : List BufferOp}

/-! ## What one operation does -/

theorem apply_attachHook (ownership : Ownership) (data : Option Bytes) (lost attached : Nat) :
    ((inUse ownership data lost attached).apply .attachHook).2 =
      inUse ownership data lost (attached + 1) := by
  have number : (List.replicate (lost + attached) 0).length = lost + attached :=
    List.length_replicate
  have longer : List.replicate (lost + attached) 0 ++ [0] =
      List.replicate (lost + (attached + 1)) 0 := List.replicate_succ'.symm
  show (⟨some ⟨data, ownership, some (List.replicate (lost + attached) 0).length⟩,
    List.replicate (lost + attached) 0 ++ [0]⟩ : BufferDrill) = _
  rw [number, longer]
  rfl

/-- What neither attaches, transfers nor drops leaves the buffer alone. -/
theorem apply_of_looking (attaches : op ≠ .attachHook) (transfers : op ≠ .transfer)
    (drops : op ≠ .drop) :
    ((inUse ownership data lost attached).apply op).2 = inUse ownership data lost attached := by
  cases op <;> first | rfl | contradiction

theorem apply_transfer_of_borrowed (bytes : Bytes) (lost attached : Nat) :
    ((inUse .borrowed (some bytes) lost attached).apply .transfer).2 =
      inUse .borrowed (some bytes) lost attached :=
  rfl

/-- The hooks so far are lost with the bytes. -/
theorem apply_transfer_of_transferable (bytes : Bytes) (lost attached : Nat) :
    ((inUse .transferable (some bytes) lost attached).apply .transfer).2 =
      inUse .transferable none (lost + attached) 0 :=
  rfl

theorem apply_transfer_of_transferred (lost attached : Nat) :
    ((inUse .transferable none lost attached).apply .transfer).2 =
      inUse .transferable none lost attached :=
  rfl

private theorem modify_last (others : Nat) :
    (List.replicate (others + 1) 0).modify others (· + 1) = List.replicate others 0 ++ [1] := by
  induction others with
  | zero => rfl
  | succ others inductionHypothesis =>
      rw [List.replicate_succ, List.modify_succ_cons, inductionHypothesis]
      rfl

/-- The hook that was attached last runs, unless it is lost. -/
theorem apply_drop (ownership : Ownership) (data : Option Bytes) (lost attached : Nat) :
    ((inUse ownership data lost attached).apply .drop).2.runs =
      List.replicate lost 0 ++ onlyLast attached := by
  cases attached with
  | zero => exact (List.append_nil _).symm
  | succ others =>
      show (List.replicate (lost + others + 1) 0).modify (lost + others) (· + 1) = _
      rw [modify_last, onlyLast, ← List.append_assoc, List.replicate_append_replicate]

/-! ## What a list of operations does -/

/-- As long as no transfer changes anything, hooks are attached and none is
lost. -/
theorem after_of_steady
    (steady : .transfer ∉ ops ∨ ∀ attached,
      ((inUse ownership data lost attached).apply .transfer).2 = inUse ownership data lost attached)
    (undropped : .drop ∉ ops) :
    (inUse ownership data lost attached).after ops =
      inUse ownership data lost (attached + ops.count .attachHook) := by
  induction ops generalizing attached with
  | nil => rfl
  | cons op rest inductionHypothesis =>
      have rest_after {attached : Nat} := @inductionHypothesis attached
        (steady.imp_left fun absent later => absent (List.mem_cons_of_mem _ later))
        fun later => undropped (List.mem_cons_of_mem _ later)
      have drops : op ≠ .drop := fun same => undropped (same ▸ List.mem_cons_self)
      show ((inUse ownership data lost attached).apply op).2.after rest = _
      by_cases attaches : op = .attachHook
      · rw [attaches, apply_attachHook, rest_after, List.count_cons_self]
        congr 1
        omega
      · rw [List.count_cons_of_ne attaches, ← rest_after]
        by_cases transfers : op = .transfer
        · have unmoved := steady.resolve_left fun absent => absent (transfers ▸ List.mem_cons_self)
          rw [transfers, unmoved]
        · rw [apply_of_looking attaches transfers drops]

/-- A buffer that keeps its bytes keeps its hooks. -/
theorem after_of_untransferred (kept : ownership = .borrowed ∨ .transfer ∉ ops)
    (undropped : .drop ∉ ops) (bytes : Bytes) :
    (fresh ownership bytes).after ops =
      inUse ownership (some bytes) 0 (ops.count .attachHook) := by
  have steady : .transfer ∉ ops ∨ ∀ attached,
      ((inUse ownership (some bytes) 0 attached).apply .transfer).2 =
        inUse ownership (some bytes) 0 attached := by
    rcases kept with rfl | absent
    · exact .inr (apply_transfer_of_borrowed bytes 0)
    · exact .inl absent
  rw [fresh_eq_inUse, after_of_steady steady undropped, Nat.zero_add]

theorem after_append (drill : BufferDrill) (earlier later : List BufferOp) :
    drill.after (earlier ++ later) = (drill.after earlier).after later :=
  List.foldl_append

/-- The first transfer parts the hooks of a transferable buffer. -/
theorem after_of_first_transfer {earlier later : List BufferOp} (first : .transfer ∉ earlier)
    (undropped : .drop ∉ earlier ++ .transfer :: later) (bytes : Bytes) :
    (fresh .transferable bytes).after (earlier ++ .transfer :: later) =
      inUse .transferable none (earlier.count .attachHook) (later.count .attachHook) := by
  have undroppedEarlier : .drop ∉ earlier :=
    fun member => undropped (List.mem_append_left _ member)
  have undroppedLater : .drop ∉ later :=
    fun member => undropped (List.mem_append_right _ (List.mem_cons_of_mem _ member))
  rw [after_append, after_of_untransferred (.inr first) undroppedEarlier]
  show ((inUse .transferable (some bytes) 0 _).apply .transfer).2.after later = _
  have steady := apply_transfer_of_transferred (0 + earlier.count .attachHook)
  rw [apply_transfer_of_transferable, after_of_steady (.inr steady) undroppedLater, Nat.zero_add,
    Nat.zero_add]

/-! ## The hook that runs -/

/-- Before the drop hooks are attached, and none runs. -/
theorem runs_of_after (undropped : .drop ∉ ops) (buffer : NativeBuffer Nat) (known : Nat) :
    ((⟨some buffer, List.replicate known 0⟩ : BufferDrill).after ops).runs =
      List.replicate (known + ops.count .attachHook) 0 := by
  induction ops generalizing buffer known with
  | nil => rfl
  | cons op rest inductionHypothesis =>
      have rest_runs := inductionHypothesis fun later => undropped (List.mem_cons_of_mem _ later)
      by_cases attaches : op = .attachHook
      · have longer : List.replicate known 0 ++ [0] = List.replicate (known + 1) 0 :=
          List.replicate_succ'.symm
        rw [attaches, List.count_cons_self, ← Nat.add_assoc, Nat.add_right_comm]
        show ((⟨some _, List.replicate known 0 ++ [0]⟩ : BufferDrill).after rest).runs = _
        rw [longer, rest_runs]
      · rw [List.count_cons_of_ne attaches]
        cases op with
        | attachHook => exact absurd rfl attaches
        | drop => exact absurd List.mem_cons_self undropped
        | transfer => exact rest_runs buffer.spent known
        | _ => exact rest_runs buffer known

/-- Whatever is done to a buffer, no hook runs before it is dropped. While it
has its bytes, they can be read and transferred, and the hook that was attached
last runs at the drop, once, and no other does. The first transfer of a
transferable buffer leaves nothing to be read or transferred, and none of the
hooks so far runs any more; but of those that are attached after it the last
one runs at the drop. -/
theorem carried_hook_runs (ownership : Ownership) (bytes : Bytes) (undropped : .drop ∉ ops) :
    let used := (fresh ownership bytes).after ops
    used.runs = List.replicate (ops.count .attachHook) 0 ∧
    ((ownership = .borrowed ∨ .transfer ∉ ops) →
      used.answer .view = .bytes bytes ∧ used.answer .transfer = .bytes bytes ∧
      used.answer .size = .count bytes.length ∧
      (used.apply .drop).2.runs = onlyLast (ops.count .attachHook)) ∧
    (ownership = .transferable → ∀ earlier later, ops = earlier ++ .transfer :: later →
      .transfer ∉ earlier →
      used.answer .view = .failed (.invariantViolation none .bufferReadAfterTransfer) ∧
      used.answer .transfer = .failed (.invariantViolation none .bufferTransferredTwice) ∧
      used.answer .size = .count 0 ∧
      (used.apply .drop).2.runs =
        List.replicate (earlier.count .attachHook) 0 ++ onlyLast (later.count .attachHook)) := by
  intro used
  have unrun : used.runs = List.replicate (0 + ops.count .attachHook) 0 :=
    runs_of_after undropped ⟨some bytes, ownership, none⟩ 0
  rw [Nat.zero_add] at unrun
  refine ⟨unrun, fun kept => ?_, ?_⟩
  · have whole : used = inUse ownership _ 0 _ := after_of_untransferred kept undropped bytes
    rw [whole]
    refine ⟨rfl, ?_, rfl, apply_drop ownership _ 0 _⟩
    cases ownership <;> rfl
  · rintro rfl earlier later rfl first
    have spent : used = inUse .transferable none _ _ :=
      after_of_first_transfer first undropped bytes
    rw [spent]
    exact ⟨rfl, rfl, rfl, apply_drop .transferable none _ _⟩

/-- A hook that is attached to a buffer that has been transferred runs, and the
one from before the transfer does not. -/
theorem carried_hook_runs_of_attached_late :
    let ops : List BufferOp := [.attachHook, .transfer, .attachHook]
    let used := (fresh .transferable [1, 2]).after ops
    .drop ∉ ops ∧ used.answer .size = .count 0 ∧ used.runs = [0, 0] ∧
      (used.apply .drop).2.runs = [0, 1] := by
  intro ops used
  have undropped : .drop ∉ ops := by decide
  obtain ⟨unrun, _, given⟩ := carried_hook_runs .transferable [1, 2] undropped
  obtain ⟨_, _, size, runs⟩ := given rfl [.attachHook] [.attachHook] rfl (by decide)
  exact ⟨undropped, size, unrun, runs⟩

end BufferDrill

end TransportBridge.Drill
