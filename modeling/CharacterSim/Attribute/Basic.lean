import CharacterSim.Collections.SortedMap
import CharacterSim.Numeric.Amount

/-! Attribute definitions: identifiers, the kinds of entity an attribute applies to, how its value
derives from base values, and the range its value is held in. -/

namespace CharacterSim

/-- Names a semantic attribute such as strength. -/
structure AttributeId where
  val : UInt16
  deriving DecidableEq, Inhabited

namespace AttributeId

instance : Ranked AttributeId where
  rank id := id.val.toNat
  rank_injective := by
    rintro ⟨first⟩ ⟨second⟩ h
    exact congrArg _ (UInt16.toNat_inj.1 h)

/-- Current vitality, which damage lowers. -/
def hp : AttributeId := ⟨13⟩

/-- Full vitality, to which a respawn restores. -/
def maxHp : AttributeId := ⟨14⟩

def text (id : AttributeId) : String := s!"attr:{id.val.toNat}"

end AttributeId

/-- A set of kinds of entity, a bit for each. -/
structure ScopeSet where
  bits : UInt8
  deriving DecidableEq, Inhabited

namespace ScopeSet

def empty : ScopeSet := ⟨0⟩

def character : ScopeSet := ⟨1⟩

def monster : ScopeSet := ⟨2⟩

/-- Every living thing. -/
def being : ScopeSet := ⟨3⟩

def union (first second : ScopeSet) : ScopeSet := ⟨first.bits ||| second.bits⟩

/-- Whether two sets share a member. -/
def intersects (first second : ScopeSet) : Bool := first.bits &&& second.bits != 0

end ScopeSet

/-- One weighted input of a derivation. -/
structure DerivationTerm where
  source : AttributeId
  weight : Float

/-- How an attribute's value before modifiers follows from base values. -/
inductive Derivation where
  /-- It is the attribute's own base. -/
  | base
  /-- It is the attribute's own base and a weighted sum of the bases of other attributes. -/
  | linear (terms : List DerivationTerm)

namespace Derivation

def terms : Derivation → List DerivationTerm
  | base => []
  | linear terms => terms

/-- The attributes whose bases a derivation reads, in the order of its terms. -/
def sources (derivation : Derivation) : List AttributeId := derivation.terms.map (·.source)

end Derivation

/-- The range that a modified value is held in. -/
structure Bounds where
  min : Float
  max : Float

namespace Bounds

/-- Every finite amount. -/
def unbounded : Bounds := ⟨Amount.lowest, Amount.highest⟩

/-- The minimum is at most the maximum, and neither is no number. -/
def isValid (bounds : Bounds) : Bool := bounds.min ≤ bounds.max

/-- The nearest amount in the range; what is no number stays so. -/
def clamp (bounds : Bounds) (amount : Float) : Float :=
  if amount < bounds.min then bounds.min
  else if bounds.max < amount then bounds.max
  else amount

/-- `clamp` for a range that may be unusable, which has no nearest amount. -/
def clamp? (bounds : Bounds) (amount : Float) : Option Float :=
  if bounds.isValid then some (bounds.clamp amount) else none

end Bounds

/-- The definition of one attribute. -/
structure AttributeInfo where
  id : AttributeId
  name : String
  scopes : ScopeSet
  /-- Players may spend points on it. -/
  modifiable : Bool := false
  derivation : Derivation := .base
  bounds : Bounds := .unbounded
  /-- The base of a fresh entity. -/
  defaultBase : Float := 0.0

namespace AttributeInfo

variable {info : AttributeInfo} {source : AttributeId}

/-- The attributes that a definition derives from. -/
def sources (info : AttributeInfo) : List AttributeId := info.derivation.sources

/-- The derivation has a term with this source. -/
def DerivesFrom (info : AttributeInfo) (source : AttributeId) : Prop :=
  ∃ terms, info.derivation = .linear terms ∧ ∃ term ∈ terms, term.source = source

theorem mem_sources_iff : source ∈ info.sources ↔ info.DerivesFrom source := by
  unfold sources DerivesFrom Derivation.sources
  cases info.derivation with
  | base => simp [Derivation.terms]
  | linear terms => simp [Derivation.terms]

instance (info : AttributeInfo) (source : AttributeId) : Decidable (info.DerivesFrom source) :=
  decidable_of_iff (source ∈ info.sources) mem_sources_iff

end AttributeInfo

end CharacterSim
