/-! Rules for the binary64 amounts that attributes hold: the order in which sums are formed, the
part above zero, and the fixed-point form in which amounts travel. -/

namespace CharacterSim.Amount

/-- The finite amount farthest below zero. -/
def lowest : Float := Float.ofBits 0xffefffffffffffff

/-- The finite amount farthest above zero. -/
def highest : Float := Float.ofBits 0x7fefffffffffffff

/-- Terms added one after the other, starting from negative zero, which adding never changes. -/
def sum (terms : List Float) : Float := terms.foldl (· + ·) (-0.0)

/-- The amount where it is above zero, otherwise zero; zero also for an amount that is no number. -/
def positivePart (amount : Float) : Float := if 0.0 < amount then amount else 0.0

/-- Fixed-point amounts count parts of this fineness. -/
def fixedPointScale : Float := 256.0

/-- The amount in 256ths, cut toward zero and held within 32 signed bits; zero for no number. -/
def toFixedPoint (amount : Float) : Int32 := (amount * fixedPointScale).toModel.toInt32

/-- The amount a fixed-point count stands for. -/
def ofFixedPoint (count : Int32) : Float := Float.ofInt count.toInt / fixedPointScale

end CharacterSim.Amount
