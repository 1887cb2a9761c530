/-! # Nonce memory

Remembers the nonces of accepted requests for a time to live, so that none is accepted twice within
it. A full memory refuses new nonces rather than forget one that is still alive.
-/

namespace JobRelay

/-- The nonces seen, each with the tick of its first use. -/
structure NonceMemory where
  /-- How long a nonce is remembered, in ticks. -/
  ttl : Nat
  /-- How many nonces are remembered at once. -/
  capacity : Nat
  seen : List (String × Nat) := []
deriving DecidableEq, Repr

/-- What is decided about a nonce. -/
inductive NonceVerdict where
  | fresh
  | replayed
  | capacityExhausted
deriving DecidableEq, Repr

namespace NonceMemory

/-- Without the nonces whose time has passed. -/
def evict (m : NonceMemory) (now : Nat) : NonceMemory :=
  { m with seen := m.seen.filter fun entry => now - entry.2 < m.ttl }

/-- Decides about a nonce; a fresh one is recorded. -/
def present (m : NonceMemory) (nonce : String) (now : Nat) : NonceVerdict × NonceMemory :=
  let m := m.evict now
  if m.seen.any (·.1 == nonce) then (.replayed, m)
  else if m.capacity ≤ m.seen.length then (.capacityExhausted, m)
  else (.fresh, { m with seen := m.seen ++ [(nonce, now)] })

def size (m : NonceMemory) : Nat := m.seen.length

def clear (m : NonceMemory) : NonceMemory := { m with seen := [] }

end NonceMemory

end JobRelay
