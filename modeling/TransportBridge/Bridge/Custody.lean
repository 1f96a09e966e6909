import TransportBridge.Bridge.World

/-!
Contract: who holds a registration, and what becomes of one that nobody holds.

A registration is held by the registry while its handle stands for it, by the
calls under way on it, and by the host. It holds its target by the pin, and the
borrowed buffers of its receives. A target, in turn, may know the registration
that it was last called for.

Whoever lets go of a registration says so here. When that was the last hold,
the buffers are dropped in arrival order and the pin after them; a target that
nobody holds any more lets go of the registration that it knew. Holds that go
round in a circle are never let go.

Does not own: the disposal of a closed handle, which `References` has.

Assumes: that a target which nobody holds any more ends without calling the bridge
and without a panic. What it lets go of is all that comes of its end.
-/

namespace TransportBridge

/-- A host that tells what it holds. -/
class Custodian (σ : Type) where
  /-- The host has a connection of the registration, or a target that knows
  it. -/
  knows : σ → EntryId → Bool
  /-- The bridge holds a target no more. Unless the host itself holds it, the
  target forgets the registration that it knew, which is given. As a function of
  the host's state, it can neither call the bridge nor panic: that is assumed of
  every target that ends. -/
  forget : TargetId → σ → Option EntryId × σ

namespace Custody

variable {σ μ α : Type} [Custodian σ]

def isHeld (world : World σ μ) (entry : EntryId) : Bool :=
  world.binds entry || world.engaged.contains entry || Custodian.knows world.host entry

/-- Has a target forget what it knew, unless somebody holds the target. -/
def forgetTarget (target : TargetId) : BridgeM σ μ (Option EntryId) := fun world =>
  if world.keeps target then (.ok none, world)
  else
    let (known, host) := Custodian.forget target world.host
    (.ok known, { world with host })

/-- Lets go of a registration, and of those that nobody holds in consequence.
Each of them hangs on the one before by its target. The first argument bounds
how many there are. -/
def letGoWithin : Nat → EntryId → BridgeM σ μ Unit
  | 0, _ => return ()
  | bound + 1, entry => do
    if isHeld (← get) entry then
      return ()
    else
      let (buffers, pin) ← change entry Lifecycle.abandon
      buffers.forM dropBuffer
      match pin with
      | none => return ()
      | some target =>
        match ← forgetTarget target with
        | none => return ()
        | some next => letGoWithin bound next

/-- Lets go of a registration. Each one but the last gives a pin up, so there
are no more of them than entries, and one. -/
def letGo (entry : EntryId) : BridgeM σ μ Unit := do
  letGoWithin ((← get).entries.size + 1) entry

/-- Lets go of a target. -/
def letGoOfTarget (target : TargetId) : BridgeM σ μ Unit := do
  match ← forgetTarget target with
  | none => return ()
  | some known => letGo known

/-- Holds a registration while `body` runs. -/
def holding (entry : EntryId) (body : BridgeM σ μ α) : BridgeM σ μ α :=
  ensuring
    (do
      modify fun world => { world with engaged := entry :: world.engaged }
      body)
    (do
      modify fun world => { world with engaged := world.engaged.erase entry }
      letGo entry)

def lend (target : TargetId) : BridgeM σ μ Unit :=
  modify fun world => { world with lent := target :: world.lent }

def takeBack (target : TargetId) : BridgeM σ μ Unit :=
  modify fun world => { world with lent := world.lent.erase target }

/-- Holds a target while `body` runs, and lets go of it when `body` ends. -/
def holdingTarget (target : TargetId) (body : BridgeM σ μ α) : BridgeM σ μ α :=
  ensuring
    (do
      lend target
      body)
    (do
      takeBack target
      letGoOfTarget target)

/-- Holds a target while `body` runs. Who runs `body` has the target again when
it returns; a panic lets go of it. -/
def lendingTarget (target : TargetId) (body : BridgeM σ μ α) : BridgeM σ μ α :=
  onPanic
    (do
      lend target
      let result ← body
      takeBack target
      return result)
    (do
      takeBack target
      letGoOfTarget target)

theorem letGo_of_isHeld {world : World σ μ} {entry : EntryId}
    (held : isHeld world entry = true) : letGo entry world = (.ok (), world) := by
  show letGoWithin (world.entries.size + 1) entry world = (.ok (), world)
  unfold letGoWithin
  show (if isHeld world entry = true then (return () : BridgeM σ μ Unit) else _) world = _
  rw [if_pos held]
  rfl

end Custody

/-- Holds a registration while a call runs. -/
def Call.holding {σ μ α : Type} [Custodian σ] (entry : EntryId) (body : Call σ μ α) :
    Call σ μ α :=
  ExceptT.mk (Custody.holding entry body.run)

end TransportBridge
