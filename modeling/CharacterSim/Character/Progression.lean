import CharacterSim.Entity.Being

/-! The points a player spends on attributes. An attribute point raises a base by one; a correction
point lowers one again and gives the attribute point back. -/

namespace CharacterSim

/-- The answer to a request to spend a point. -/
inductive SpendResponse where
  | ok
  | noPointsLeft
  | invalidAttribute
  | denied
  deriving DecidableEq

def SpendResponse.text : SpendResponse → String
  | ok => "OK"
  | noPointsLeft => "NO_POINTS_LEFT"
  | invalidAttribute => "INVALID_ATTRIBUTE"
  | denied => "DENIED"

/-- The points of a player. -/
structure ProgressionLedger where
  attributePoints : UInt32 := 0
  correctionPoints : UInt32 := 0
  /-- A balance was set since the owner last took note. -/
  changed : Bool := false
  deriving DecidableEq, Inhabited

namespace ProgressionLedger

/-- A base that is at most this is not lowered. -/
def correctionFloor : Float := 1.0

def setAttributePoints (ledger : ProgressionLedger) (points : UInt32) : ProgressionLedger :=
  { ledger with attributePoints := points, changed := true }

def setCorrectionPoints (ledger : ProgressionLedger) (points : UInt32) : ProgressionLedger :=
  { ledger with correctionPoints := points, changed := true }

/-- The ledger with its changes taken note of. -/
def clearChanged (ledger : ProgressionLedger) : ProgressionLedger := { ledger with changed := false }

/-- The base of an attribute that points may be spent on and that the being carries. -/
def spendableBase? (being : Being) (id : AttributeId) : Option Float :=
  if being.attributes.registry.isDirectlyModifiable id then being.base? id else none

/-- The attribute points after one is given back, unless there can be no more. -/
def refunded? (ledger : ProgressionLedger) : Option UInt32 :=
  if ledger.attributePoints = UInt32.ofNat (UInt32.size - 1) then none
  else some (ledger.attributePoints + 1)

/-- Spends an attribute point on raising a base. -/
def usePoint (ledger : ProgressionLedger) (being : Being) (id : AttributeId) :
    ProgressionLedger × Being × SpendResponse :=
  match spendableBase? being id with
  | none => (ledger, being, .invalidAttribute)
  | some base =>
    if ledger.attributePoints = 0 then (ledger, being, .noPointsLeft)
    else (ledger.setAttributePoints (ledger.attributePoints - 1),
      (being.setAttribute id (base + 1.0)).1, .ok)

/-- Spends a correction point on lowering a base, which gives an attribute point back. -/
def useCorrection (ledger : ProgressionLedger) (being : Being) (id : AttributeId) :
    ProgressionLedger × Being × SpendResponse :=
  match spendableBase? being id with
  | none => (ledger, being, .invalidAttribute)
  | some base =>
    if ledger.correctionPoints = 0 then (ledger, being, .noPointsLeft)
    else if base ≤ correctionFloor then (ledger, being, .denied)
    else match ledger.refunded? with
      | none => (ledger, being, .denied)
      | some refunded =>
        ((ledger.setCorrectionPoints (ledger.correctionPoints - 1)).setAttributePoints refunded,
          (being.setAttribute id (base - 1.0)).1, .ok)

end ProgressionLedger

end CharacterSim
