import JwSwarm.Proto.Message

namespace JwSwarm.FleetManager

open Proto

/-! Points for delivered work and for capacity, over exact rationals. -/

namespace Accounting

structure Weights where
  tokens : ℚ
  capacity : ℚ

def Weights.default : Weights where
  tokens := 1 / 100
  capacity := 1 / 1000

end Accounting

structure Accounting where
  weights : Accounting.Weights := .default

namespace Accounting

/-- Points earned for completed token delivery, normalised to a 7B model. -/
def deliveryPoints (accounting : Accounting) (usage : Usage)
    (paramsBillions : ℚ) : ℚ :=
  let sizeFactor := if 0 < paramsBillions then paramsBillions / 7 else 1
  usage.completionTokens.toNat * sizeFactor * accounting.weights.tokens

def capacityPoints (accounting : Accounting)
    (awakeSeconds gpuPowerPct vramMb : ℚ) : ℚ :=
  awakeSeconds * (gpuPowerPct / 100) * (vramMb / 1024) *
    accounting.weights.capacity

end Accounting

end JwSwarm.FleetManager
