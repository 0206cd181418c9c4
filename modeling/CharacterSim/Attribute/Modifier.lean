import CharacterSim.Numeric.Amount

/-! Contributions of equipment and status effects to an attribute, and the order in which a stack of
them acts on a value. -/

namespace CharacterSim

/-- Who contributed a modifier, so that it can be withdrawn. -/
structure ModifierSource where
  val : UInt32
  deriving DecidableEq, Inhabited

/-- One contribution. -/
inductive Modifier where
  /-- Added before any factor. -/
  | flat (amount : Float)
  /-- A percentage; all of these are added up and act once. -/
  | increased (percent : Float)
  /-- A factor of its own, above one by so many hundredths. -/
  | more (percent : Float)
  /-- A factor of its own, below one by so many hundredths. -/
  | less (percent : Float)

namespace Modifier

def flatAmount? : Modifier → Option Float
  | flat amount => some amount
  | _ => none

def increasedPercent? : Modifier → Option Float
  | increased percent => some percent
  | _ => none

/-- The factor a contribution acts by on its own. -/
def factor? : Modifier → Option Float
  | more percent => some (1.0 + percent / 100.0)
  | less percent => some (1.0 - percent / 100.0)
  | _ => none

end Modifier

/-- The contributions to one attribute in the order they were made. -/
structure ModifierStack where
  entries : List (ModifierSource × Modifier) := []
  deriving Inhabited

namespace ModifierStack

def empty : ModifierStack := {}

def size (stack : ModifierStack) : Nat := stack.entries.length

def isEmpty (stack : ModifierStack) : Bool := stack.entries.isEmpty

def modifiers (stack : ModifierStack) : List Modifier := stack.entries.map (·.2)

def add (stack : ModifierStack) (source : ModifierSource) (modifier : Modifier) : ModifierStack :=
  ⟨stack.entries ++ [(source, modifier)]⟩

/-- Whether `source` has contributed. -/
def hasSource (stack : ModifierStack) (source : ModifierSource) : Bool :=
  stack.entries.any (·.1 == source)

/-- The stack without the contributions of `source`. -/
def withdraw (stack : ModifierStack) (source : ModifierSource) : ModifierStack :=
  ⟨stack.entries.filter (·.1 != source)⟩

/-- The value with every contribution: the flat amounts, then the increases as one factor, then each
remaining factor in the order it was contributed. -/
def apply (stack : ModifierStack) (value : Float) : Float :=
  let flat := Amount.sum (stack.modifiers.filterMap Modifier.flatAmount?)
  let increased := Amount.sum (stack.modifiers.filterMap Modifier.increasedPercent?)
  (stack.modifiers.filterMap Modifier.factor?).foldl (· * ·)
    ((value + flat) * (1.0 + increased / 100.0))

end ModifierStack

end CharacterSim
