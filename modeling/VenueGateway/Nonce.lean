import VenueGateway.Failure

/-! # Nonces

Every signed request carries a nonce above all nonces sent before it. The counter holds the next
one; at the largest 64-bit number it is exhausted and stays so, and that number is never issued.
-/

namespace VenueGateway

/-- A counter of nonces. -/
structure NonceCounter where
  next : Fin UInt64.size
deriving DecidableEq

namespace NonceCounter

/-- The counter of a caller that never sent a nonce. -/
def zero : NonceCounter := ⟨⟨0, by decide⟩⟩

def limit : Nat := UInt64.size - 1

def exhausted : Failure := .configuration ("Nonce space exhausted at " ++ toString limit)

def take (counter : NonceCounter) : Except Failure (Nat × NonceCounter) :=
  if h : counter.next.val + 1 < UInt64.size then .ok (counter.next.val, ⟨⟨counter.next.val + 1, h⟩⟩)
  else .error exhausted

def shown (counter : NonceCounter) : String :=
  "NonceCounter \x7b next: " ++ toString counter.next.val ++ " \x7d"

end NonceCounter

end VenueGateway
