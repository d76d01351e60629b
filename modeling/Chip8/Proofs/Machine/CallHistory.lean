import Chip8.Machine.CallStack

namespace Chip8.CallStack

inductive Operation where
  | push (address : UInt16)
  | pop
  deriving DecidableEq, Repr

def apply (s : CallStack) : Operation → Option UInt16 × CallStack
  | .push address => (none, s.push address)
  | .pop => (some s.pop.1, s.pop.2)

def run {σ : Type} (step : σ → Operation → Option UInt16 × σ) (s : σ) :
    List Operation → List (Option UInt16) × σ
  | [] => ([], s)
  | op :: rest => ((step s op).1 :: (run step (step s op).2 rest).1, (run step (step s op).2 rest).2)

section Step

variable (s : CallStack) (op : Operation)

end Step

-- A slot that a pop left behind is reused before another one is added.
example :
    run apply (empty 1) [.push 5, .pop, .push 7, .push 8, .pop, .pop, .pop] =
      ([none, some 5, none, none, some 8, some 7, some 0], ⟨#[7, 8], 0, by decide⟩) := by
  decide

end Chip8.CallStack
