import CharacterSim.Server.Links

/-! What surrounds a running server: the connections it delivers to, and the sessions that its
characters take part in. -/

namespace CharacterSim

/-- A server with its surroundings. -/
structure Host (σ : Type) where
  server : σ
  links : Links := {}
  sessions : SessionTable := .empty

namespace Host

variable {σ : Type}

/-- Lets effects reach the surroundings. The answer is what is logged meanwhile. -/
def settle (host : Host σ) (effects : List Effect) : Host σ × List LogEvent :=
  let (links, events) := host.links.deliverAll effects
  ({ host with links, sessions := host.sessions.noteAll effects }, events)

/-- The host after the next client has connected, and the name of its connection. -/
def connect (host : Host σ) (capacity : Option Nat) : Step (Host σ × Option ClientId) := do
  let (links, client) ← host.links.connect capacity
  return ({ host with links }, client)

end Host

end CharacterSim
