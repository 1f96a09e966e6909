import TransportBridge.BridgeError

/-!
Contract: bytes that the native engine hands over, and who frees them.

A transferable buffer gives its memory away: the first transfer empties it and
takes off the release hook that it carries, so what is no longer native is not
freed by that hook. A borrowed buffer only lends its bytes and keeps its hook for
the moment it is dropped. Dropping runs the hook that is attached then, so a
hook runs at most once; one that is attached after the transfer runs, too.
-/

namespace TransportBridge

inductive Ownership where
  | transferable
  | borrowed
deriving DecidableEq, Repr

def Ownership.inspect : Ownership → String
  | transferable => "Transferable"
  | borrowed => "Borrowed"

/-- A native buffer whose release hooks are named by `Hook`. -/
structure NativeBuffer (Hook : Type) where
  data : Option Bytes
  ownership : Ownership
  hook : Option Hook
deriving DecidableEq, Repr

namespace NativeBuffer

variable {Hook : Type}

def transferable (data : Bytes) : NativeBuffer Hook :=
  ⟨some data, .transferable, none⟩

def borrowed (data : Bytes) : NativeBuffer Hook :=
  ⟨some data, .borrowed, none⟩

/-- Attaches a hook; one that is there is replaced and never runs. -/
def withRelease (buffer : NativeBuffer Hook) (hook : Hook) : NativeBuffer Hook :=
  { buffer with hook := some hook }

/-- A transferred buffer has size zero. -/
def size (buffer : NativeBuffer Hook) : Nat :=
  (buffer.data.map List.length).getD 0

def isEmpty (buffer : NativeBuffer Hook) : Bool :=
  buffer.size == 0

def isTransferred (buffer : NativeBuffer Hook) : Bool :=
  buffer.data.isNone

/-- The native side's reading of the buffer. -/
def view (buffer : NativeBuffer Hook) : Except Violation Bytes :=
  match buffer.data with
  | some data => .ok data
  | none => .error .bufferReadAfterTransfer

/-- The managed side's bytes, and the buffer that is left to the native side. -/
def transfer (buffer : NativeBuffer Hook) : Except Violation (Bytes × NativeBuffer Hook) :=
  match buffer.ownership with
  | .transferable =>
    match buffer.data with
    | some data => .ok (data, { buffer with data := none, hook := none })
    | none => .error .bufferTransferredTwice
  | .borrowed =>
    match buffer.view with
    | .ok data => .ok (data, buffer)
    | .error violation => .error violation

/-- What is transferred is all that there is. -/
theorem size_of_transfer {buffer spent : NativeBuffer Hook} {bytes : Bytes}
    (taken : buffer.transfer = .ok (bytes, spent)) : buffer.size = bytes.length := by
  have held : buffer.data = some bytes := by
    unfold transfer view at taken
    cases ownership : buffer.ownership <;> cases data : buffer.data <;>
      simp [ownership, data] at taken
    all_goals rw [taken.1]
  unfold size
  rw [held]
  rfl

/-- The buffer after one transfer, whether or not the transfer succeeds. -/
def spent (buffer : NativeBuffer Hook) : NativeBuffer Hook :=
  match buffer.transfer with
  | .ok (_, rest) => rest
  | .error _ => buffer

/-- The hooks that run when the buffer is dropped. -/
def dropped (buffer : NativeBuffer Hook) : List Hook :=
  buffer.hook.toList

theorem spent_of_transfer {buffer rest : NativeBuffer Hook} {bytes : Bytes}
    (taken : buffer.transfer = .ok (bytes, rest)) : buffer.spent = rest := by
  unfold spent
  rw [taken]

/-- A buffer that has given its memory away has no hook to run. -/
theorem dropped_of_transferable {buffer rest : NativeBuffer Hook} {bytes : Bytes}
    (taken : buffer.transfer = .ok (bytes, rest)) (owned : rest.ownership = .transferable) :
    rest.dropped = [] := by
  unfold transfer view at taken
  cases ownership : buffer.ownership <;> cases data : buffer.data <;>
    simp only [ownership, data, Except.ok.injEq, Prod.mk.injEq, reduceCtorEq] at taken
  · rw [← taken.2]
    rfl
  · rw [← taken.2, ownership] at owned
    cases owned

def inspect (buffer : NativeBuffer Hook) : String :=
  Inspect.record "NativeBuffer" [("len", toString buffer.size),
    ("ownership", buffer.ownership.inspect),
    ("transferred", Inspect.bool buffer.isTransferred)]

end NativeBuffer

end TransportBridge
