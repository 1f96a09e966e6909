import TransportBridge.Text.Inspect

/-!
Contract: the identity of one logical connection.

The native engine assigns the number; nothing here looks behind it. Zero is
no handle.
-/

namespace TransportBridge

structure Handle where
  raw : UInt64
  nonzero : raw ≠ 0
deriving DecidableEq, Repr

namespace Handle

def ofRaw? (raw : UInt64) : Option Handle :=
  if nonzero : raw ≠ 0 then some ⟨raw, nonzero⟩ else none

/-- The notation that the engine's own diagnostics use: `@` and the address in
hexadecimal. -/
def render (handle : Handle) : String :=
  "@0x" ++ Inspect.hex handle.raw.toNat

def inspect (handle : Handle) : String :=
  Inspect.tuple "TransportHandle" (toString handle.raw.toNat)

/-- Places a handle into an ascending list; a handle that is there stays once. -/
def insertSorted (handle : Handle) : List Handle → List Handle
  | [] => [handle]
  | head :: tail =>
    if handle = head then head :: tail
    else if handle.raw < head.raw then handle :: head :: tail
    else head :: insertSorted handle tail

/-- Ascending by raw address, each handle once. -/
def sortDistinct (handles : List Handle) : List Handle :=
  handles.foldr insertSorted []

end Handle

end TransportBridge
