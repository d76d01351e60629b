import Chip8.Machine.Cycle

namespace Chip8.Machine

def after (m : Machine) (snapshots : List Keypad) : Machine :=
  snapshots.foldl (fun m keys => (m.cycle keys).2) m

def cycles (m : Machine) : List Keypad → List Cycle
  | [] => []
  | keys :: rest => (m.cycle keys).1 :: (m.cycle keys).2.cycles rest

-- The machine before cycle `k` of a run.
def before (m : Machine) (snapshots : List Keypad) (k : Nat) : Machine :=
  m.after (snapshots.take k)

@[simp] theorem after_nil (m : Machine) : m.after [] = m := rfl

@[simp] theorem after_cons (m : Machine) (keys : Keypad) (rest : List Keypad) :
    m.after (keys :: rest) = (m.cycle keys).2.after rest :=
  rfl

theorem after_append (m : Machine) (first second : List Keypad) :
    m.after (first ++ second) = (m.after first).after second :=
  List.foldl_append

theorem before_succ (m : Machine) (snapshots : List Keypad) {k : Nat} (h : k < snapshots.length) :
    m.before snapshots (k + 1) = ((m.before snapshots k).cycle snapshots[k]).2 := by
  rw [before, List.take_succ_eq_append_getElem h, after_append]
  rfl

theorem getElem?_cycles (m : Machine) (snapshots : List Keypad) (k : Nat) :
    (m.cycles snapshots)[k]? =
      snapshots[k]?.map fun keys => ((m.before snapshots k).cycle keys).1 := by
  induction snapshots generalizing m k with
  | nil => rfl
  | cons keys rest ih =>
    cases k with
    | zero => rfl
    | succ k => exact ih (m.cycle keys).2 k

end Chip8.Machine
