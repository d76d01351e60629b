namespace Chip8

structure Dialect where
  -- 8xy6 and 8xyE shift Vy into Vx, instead of Vx in place.
  shiftsVy : Bool
  -- Bnnn jumps to nnn + Vx, instead of nnn + V0.
  jumpsByVx : Bool
  -- Fx1E sets VF when the sum leaves the 12-bit address space.
  indexSumSetsFlag : Bool
  -- Fx55 and Fx65 leave I behind the last byte they moved.
  transferMovesIndex : Bool
  -- 8xy1, 8xy2 and 8xy3 clear VF.
  logicClearsFlag : Bool
  deriving DecidableEq, Repr

namespace Dialect

def cosmacVip : Dialect where
  shiftsVy := false
  jumpsByVx := false
  indexSumSetsFlag := false
  transferMovesIndex := true
  logicClearsFlag := false

-- Interpreters since CHIP-48 and SUPER-CHIP.
def modern : Dialect where
  shiftsVy := false
  jumpsByVx := true
  indexSumSetsFlag := true
  transferMovesIndex := false
  logicClearsFlag := false

end Dialect

end Chip8
