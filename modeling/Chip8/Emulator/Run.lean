import Chip8.Emulator.Basic

namespace Chip8.Emulator

inductive Event where
  | update (delta : Nat)
  | setKey (key : Nibble) (down : Bool)
  | takeFrame
  deriving DecidableEq, Repr

inductive Response where
  | report (report : Report)
  | silent
  | frame (display? : Option Display)
  deriving DecidableEq

def handle (e : Emulator) : Event → Response × Emulator
  | .update delta =>
    let (report, next) := e.update delta
    (.report report, next)
  | .setKey key down => (.silent, e.setKey key down)
  | .takeFrame =>
    let (display?, next) := e.takeFrame
    (.frame display?, next)

def after (e : Emulator) (events : List Event) : Emulator :=
  events.foldl (fun e event => (e.handle event).2) e

def responses (e : Emulator) : List Event → List Response
  | [] => []
  | event :: rest => (e.handle event).1 :: (e.handle event).2.responses rest

-- The emulator before event `k` of a run.
def before (e : Emulator) (events : List Event) (k : Nat) : Emulator := e.after (events.take k)

def Response.log : Response → List LogRecord
  | .report r => r.log
  | _ => []

def runLog (e : Emulator) (events : List Event) : List LogRecord :=
  (e.responses events).flatMap Response.log

@[simp] theorem after_nil (e : Emulator) : e.after [] = e := rfl

@[simp] theorem after_cons (e : Emulator) (event : Event) (rest : List Event) :
    e.after (event :: rest) = (e.handle event).2.after rest :=
  rfl

theorem after_append (e : Emulator) (first second : List Event) :
    e.after (first ++ second) = (e.after first).after second :=
  List.foldl_append

theorem responses_append (e : Emulator) (first second : List Event) :
    e.responses (first ++ second) = e.responses first ++ (e.after first).responses second := by
  induction first generalizing e with
  | nil => rfl
  | cons event rest ih => simp [responses, ih]

@[simp] theorem before_zero (e : Emulator) (events : List Event) : e.before events 0 = e := rfl

theorem before_succ (e : Emulator) {events : List Event} {k : Nat} {event : Event}
    (h : events[k]? = some event) :
    e.before events (k + 1) = ((e.before events k).handle event).2 := by
  obtain ⟨hk, rfl⟩ := List.getElem?_eq_some_iff.mp h
  rw [before, List.take_succ_eq_append_getElem hk, after_append]
  rfl

theorem getElem?_responses (e : Emulator) (events : List Event) (k : Nat) :
    (e.responses events)[k]? =
      events[k]?.map fun event => ((e.before events k).handle event).1 := by
  induction events generalizing e k with
  | nil => rfl
  | cons event rest ih =>
    cases k with
    | zero => rfl
    | succ k => exact ih (e.handle event).2 k

end Chip8.Emulator
