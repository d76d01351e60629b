import Chip8.Emulator.Run
import Chip8.Terminal.Session

namespace Chip8

section Keyboard

-- The keypad key that stands in the place of a keyboard key. Case makes no
-- difference.
def Key.MapsTo (keyboard : Key) (key : Nibble) : Prop :=
  ∃ c, keyboard = .char c ∧ (key, c.toLower) ∈ keypadRows.flatten

theorem place_unique :
    ∀ first ∈ keypadRows.flatten, ∀ second ∈ keypadRows.flatten,
      first.2 = second.2 → first = second := by
  decide

theorem keypad?_eq_some_iff {keyboard : Key} {key : Nibble} :
    keyboard.keypad? = some key ↔ keyboard.MapsTo key := by
  cases keyboard with
  | char c =>
    constructor
    · intro h
      obtain ⟨⟨key', mapped⟩, hfind, rfl⟩ := Option.map_eq_some_iff.mp h
      have hmapped : mapped = c.toLower := by simpa using List.find?_some hfind
      exact ⟨c, rfl, hmapped ▸ List.mem_of_find?_eq_some hfind⟩
    · rintro ⟨_, ⟨⟩, hmem⟩
      cases hfind : keypadRows.flatten.find? fun place => place.2 = c.toLower with
      | none => simpa using List.find?_eq_none.mp hfind _ hmem
      | some place =>
        have hmapped : place.2 = c.toLower := by simpa using List.find?_some hfind
        have hplace := place_unique _ (List.mem_of_find?_eq_some hfind) _ hmem hmapped
        show (keypadRows.flatten.find? fun place => place.2 = c.toLower).map Prod.fst = some key
        rw [hfind, hplace]
        rfl
  | escape => exact ⟨nofun, nofun⟩
  | other => exact ⟨nofun, nofun⟩

theorem Key.MapsTo.unique {keyboard : Key} {key key' : Nibble} (h : keyboard.MapsTo key)
    (h' : keyboard.MapsTo key') : key = key' :=
  Option.some.inj ((keypad?_eq_some_iff.mpr h).symm.trans (keypad?_eq_some_iff.mpr h'))

theorem Key.MapsTo.iff_eq {keyboard : Key} {key key' : Nibble} (h : keyboard.MapsTo key') :
    keyboard.MapsTo key ↔ key = key' :=
  ⟨fun h' => h'.unique h, fun heq => heq ▸ h⟩

end Keyboard

namespace Session

namespace Event

def Quits : Event → Prop
  | .key _ event => event.key = .escape ∨ event.key = .char 'c' ∧ event.control = true
  | _ => False

-- A keyboard key that is mapped to the key is pressed or repeated, and it is no
-- quit.
def Presses (key : Nibble) : Event → Prop
  | .key now event =>
    ¬ Quits (.key now event) ∧ event.key.MapsTo key ∧ event.action ≠ .release
  | _ => False

-- A keyboard key that is mapped to the key is released, and it is no quit; or
-- the key expires.
def LetsGo (key : Nibble) : Event → Prop
  | .key now event =>
    ¬ Quits (.key now event) ∧ event.key.MapsTo key ∧ event.action = .release
  | .expire overdue => overdue key = true
  | _ => False

theorem quits_key_iff {now : Nat} {event : KeyEvent} :
    Quits (.key now event) ↔ event.quits = true := by
  simp [Quits, KeyEvent.quits]

end Event

section Step

variable {s : Session} {key : Nibble}

theorem isSome_get_set (times : Vector (Option Nat) 16) (changed : Nibble) (time : Option Nat)
    (key : Nibble) :
    ((times.set changed.val time changed.val_lt).get key).isSome =
      if key = changed then time.isSome else (times.get key).isSome := by
  show ((times.set changed.val time changed.val_lt)[key.val]).isSome = _
  by_cases hkey : key = changed
  · simp [hkey]
  · rw [if_neg hkey, Vector.getElem_set_ne _ _ fun h => hkey (Fin.ext h.symm)]
    rfl

theorem isHeld_press (now : Nat) (pressed : Nibble) :
    (s.press now pressed).isHeld key = if key = pressed then true else s.isHeld key :=
  isSome_get_set s.pressTimes pressed (some now) key

theorem isHeld_release (released : Nibble) :
    (s.release released).isHeld key = if key = released then false else s.isHeld key :=
  isSome_get_set s.pressTimes released none key

def KeysAgree (s : Session) : Prop := ∀ key, s.emulator.keys.isDown key = s.isHeld key

theorem keysAgree_press (h : s.KeysAgree) (now : Nat) (pressed : Nibble) :
    (s.press now pressed).KeysAgree := by
  intro key
  rw [isHeld_press, ← h key]
  exact Keypad.isDown_set ..

theorem keysAgree_release (h : s.KeysAgree) (released : Nibble) :
    (s.release released).KeysAgree := by
  intro key
  rw [isHeld_release, ← h key]
  exact Keypad.isDown_set ..

-- One key of those that expire; only one that is held is released.
def expireKey (overdue : Nibble → Bool) (s : Session) (key : Nibble) : Session :=
  if s.isHeld key && overdue key then s.release key else s

theorem releaseOverdue_eq (overdue : Nibble → Bool) :
    s.releaseOverdue overdue = Nibble.all.foldl (expireKey overdue) s :=
  rfl

theorem isHeld_expireKey (overdue : Nibble → Bool) (expired : Nibble) :
    (expireKey overdue s expired).isHeld key =
      (s.isHeld key && !(overdue key && decide (key = expired))) := by
  unfold expireKey
  by_cases hkey : key = expired
  · subst hkey
    cases hheld : s.isHeld key <;> cases hoverdue : overdue key <;> simp [hheld, isHeld_release]
  · split <;> simp [isHeld_release, hkey]

theorem isHeld_releaseOverdue (overdue : Nibble → Bool) :
    (s.releaseOverdue overdue).isHeld key = (s.isHeld key && !overdue key) := by
  have hfold (keys : List Nibble) :
      (keys.foldl (expireKey overdue) s).isHeld key =
        (s.isHeld key && !(overdue key && decide (key ∈ keys))) := by
    induction keys generalizing s with
    | nil => simp
    | cons expired rest ih =>
      rw [List.foldl_cons, ih, isHeld_expireKey]
      cases overdue key <;> simp [Bool.and_assoc]
  rw [releaseOverdue_eq, hfold]
  simp [Nibble.mem_all]

theorem releaseOverdue_induction {motive : Session → Prop} (overdue : Nibble → Bool)
    (h : motive s) (hrelease : ∀ s key, motive s → motive (s.release key)) :
    motive (s.releaseOverdue overdue) := by
  rw [releaseOverdue_eq]
  refine List.foldlRecOn _ _ h fun s hs key _ => ?_
  unfold expireKey
  split
  · exact hrelease s key hs
  · exact hs

theorem handleKey_cases (s : Session) (now : Nat) (event : KeyEvent) :
    (Event.Quits (.key now event) ∧ s.handleKey now event = { s with quit := true }) ∨
      ¬ Event.Quits (.key now event) ∧
        ((∀ key, ¬ event.key.MapsTo key) ∧ s.handleKey now event = s ∨
          (∃ key, event.key.MapsTo key ∧ event.action ≠ .release ∧
            s.handleKey now event = s.press now key) ∨
          ∃ key, event.key.MapsTo key ∧ event.action = .release ∧
            s.handleKey now event = s.release key) := by
  unfold handleKey
  rw [Event.quits_key_iff]
  by_cases hquits : event.quits = true
  · exact .inl ⟨hquits, if_pos hquits⟩
  · rw [if_neg hquits]
    refine .inr ⟨hquits, ?_⟩
    cases hkey : event.key.keypad? with
    | none =>
      refine .inl ⟨fun key hmaps => ?_, rfl⟩
      exact absurd (hkey.symm.trans (keypad?_eq_some_iff.mpr hmaps)) nofun
    | some key =>
      have hmaps := keypad?_eq_some_iff.mp hkey
      cases haction : event.action with
      | press => exact .inr (.inl ⟨key, hmaps, nofun, rfl⟩)
      | held => exact .inr (.inl ⟨key, hmaps, nofun, rfl⟩)
      | release => exact .inr (.inr ⟨key, hmaps, rfl, rfl⟩)

theorem takeFrame_eq :
    s.takeFrame.2 =
      { s with
        emulator := s.emulator.takeFrame.2
        frame := (s.emulator.takeFrame.1.map Display.rows).getD s.frame } := by
  unfold takeFrame
  rcases s.emulator.takeFrame with ⟨_ | display, emulator⟩
  · rfl
  · rfl

theorem keysAgree_handle (h : s.KeysAgree) (event : Event) : (s.handle event).KeysAgree := by
  cases event with
  | key now event =>
    show (s.handleKey now event).KeysAgree
    obtain ⟨-, heq⟩ | ⟨-, ⟨-, heq⟩ | ⟨key, -, -, heq⟩ | ⟨key, -, -, heq⟩⟩ :=
      handleKey_cases s now event
    · rw [heq]
      exact h
    · rw [heq]
      exact h
    · rw [heq]
      exact keysAgree_press h now key
    · rw [heq]
      exact keysAgree_release h key
  | expire overdue =>
    exact releaseOverdue_induction overdue h fun s key hs => keysAgree_release hs key
  | update delta => exact h
  | takeFrame =>
    have hkeys : s.emulator.takeFrame.2.keys = s.emulator.keys := by
      rw [Emulator.snd_takeFrame]
    show s.takeFrame.2.KeysAgree
    rw [takeFrame_eq]
    intro key
    exact (congrArg (fun keys => keys.isDown key) hkeys).trans (h key)
  | status text => exact h

theorem isHeld_handle (event : Event) :
    (s.handle event).isHeld key = true ↔
      event.Presses key ∨ s.isHeld key = true ∧ ¬ event.LetsGo key := by
  cases event with
  | key now event =>
    show (s.handleKey now event).isHeld key = true ↔ _
    simp only [Event.Presses, Event.LetsGo]
    obtain ⟨hquits, heq⟩ | ⟨hquits, ⟨hmaps, heq⟩ | ⟨pressed, hmaps, haction, heq⟩ |
        ⟨released, hmaps, haction, heq⟩⟩ := handleKey_cases s now event
    · rw [heq]
      simp [hquits, isHeld]
    · rw [heq]
      simp [hmaps]
    · rw [heq, isHeld_press, hmaps.iff_eq]
      split <;> simp_all
    · rw [heq, isHeld_release, hmaps.iff_eq]
      split <;> simp_all
  | expire overdue =>
    show (s.releaseOverdue overdue).isHeld key = true ↔ _
    simp [isHeld_releaseOverdue, Event.Presses, Event.LetsGo]
  | update delta => simp [Event.Presses, Event.LetsGo, handle, update, isHeld]
  | takeFrame =>
    show s.takeFrame.2.isHeld key = true ↔ _
    rw [takeFrame_eq]
    simp [Event.Presses, Event.LetsGo, isHeld]
  | status text => simp [Event.Presses, Event.LetsGo, handle, setStatus, isHeld]

theorem quit_handle (event : Event) :
    (s.handle event).quit = true ↔ event.Quits ∨ s.quit = true := by
  cases event with
  | key now event =>
    show (s.handleKey now event).quit = true ↔ _
    obtain ⟨hquits, heq⟩ | ⟨hquits, ⟨-, heq⟩ | ⟨pressed, -, -, heq⟩ | ⟨released, -, -, heq⟩⟩ :=
      handleKey_cases s now event
    · rw [heq]
      simp [hquits]
    · rw [heq]
      simp [hquits]
    · rw [heq]
      simp [hquits, press]
    · rw [heq]
      simp [hquits, release]
  | expire overdue =>
    have hquit : (s.releaseOverdue overdue).quit = s.quit := by
      refine releaseOverdue_induction (motive := fun t => t.quit = s.quit) overdue rfl ?_
      intro t key ht
      exact ht
    show (s.releaseOverdue overdue).quit = true ↔ _
    simp [hquit, Event.Quits]
  | update delta => simp [Event.Quits, handle, update]
  | takeFrame =>
    show s.takeFrame.2.quit = true ↔ _
    rw [takeFrame_eq]
    simp [Event.Quits]
  | status text => simp [Event.Quits, handle, setStatus]

theorem handle_of_quits {event : Event} (h : event.Quits) :
    s.handle event = { s with quit := true } := by
  cases event with
  | key now event =>
    obtain ⟨-, heq⟩ | ⟨hquits, -⟩ := handleKey_cases s now event
    · exact heq
    · exact absurd h hquits
  | _ => exact h.elim

theorem handle_of_unmapped {now : Nat} {event : KeyEvent}
    (hquits : ¬ Event.Quits (.key now event)) (hmaps : ∀ key, ¬ event.key.MapsTo key) :
    s.handle (.key now event) = s := by
  obtain ⟨h, -⟩ | ⟨-, ⟨-, heq⟩ | ⟨key, hkey, -⟩ | ⟨key, hkey, -⟩⟩ :=
    handleKey_cases s now event
  · exact absurd h hquits
  · exact heq
  · exact absurd hkey (hmaps key)
  · exact absurd hkey (hmaps key)

end Step

section Run

variable {s : Session} {key : Nibble}

-- Some event presses the key, and none after it lets the key go.
def PressedLast (key : Nibble) (events : List Event) : Prop :=
  ∃ earlier press later, events = earlier ++ press :: later ∧ press.Presses key ∧
    ∀ event ∈ later, ¬ event.LetsGo key

theorem not_pressedLast_nil : ¬ PressedLast key [] := by
  rintro ⟨earlier, press, later, hsplit, -⟩
  simp at hsplit

theorem pressedLast_cons {event : Event} {rest : List Event} :
    PressedLast key (event :: rest) ↔
      PressedLast key rest ∨ event.Presses key ∧ ∀ event ∈ rest, ¬ event.LetsGo key := by
  constructor
  · rintro ⟨earlier, press, later, hsplit, hpress, hlater⟩
    cases earlier with
    | nil =>
      obtain ⟨rfl, rfl⟩ := List.cons.inj hsplit
      exact .inr ⟨hpress, hlater⟩
    | cons first earlier =>
      obtain ⟨rfl, rfl⟩ := List.cons.inj hsplit
      exact .inl ⟨earlier, press, later, rfl, hpress, hlater⟩
  · rintro (⟨earlier, press, later, rfl, hpress, hlater⟩ | ⟨hpress, hlater⟩)
    · exact ⟨event :: earlier, press, later, rfl, hpress, hlater⟩
    · exact ⟨[], event, rest, rfl, hpress, hlater⟩

theorem keysAgree_after (h : s.KeysAgree) (events : List Event) : (s.after events).KeysAgree := by
  induction events generalizing s with
  | nil => exact h
  | cons event rest ih => exact ih (keysAgree_handle h event)

theorem isHeld_after (events : List Event) :
    (s.after events).isHeld key = true ↔
      PressedLast key events ∨ s.isHeld key = true ∧ ∀ event ∈ events, ¬ event.LetsGo key := by
  induction events generalizing s with
  | nil => simp [after, not_pressedLast_nil]
  | cons event rest ih =>
    show ((s.handle event).after rest).isHeld key = true ↔ _
    rw [ih, isHeld_handle, pressedLast_cons, List.forall_mem_cons]
    grind

theorem quit_after (events : List Event) :
    (s.after events).quit = true ↔ (∃ event ∈ events, event.Quits) ∨ s.quit = true := by
  induction events generalizing s with
  | nil => simp [after]
  | cons event rest ih =>
    show ((s.handle event).after rest).quit = true ↔ _
    rw [ih, quit_handle]
    simp only [List.mem_cons, exists_eq_or_imp]
    rw [or_left_comm, or_assoc]

-- A session does nothing to its emulator that events of the emulator do not do.
theorem emulator_handle (event : Event) :
    ∃ fed, (s.handle event).emulator = s.emulator.after fed := by
  cases event with
  | key now event =>
    show ∃ fed, (s.handleKey now event).emulator = s.emulator.after fed
    obtain ⟨-, heq⟩ | ⟨-, ⟨-, heq⟩ | ⟨pressed, -, -, heq⟩ | ⟨released, -, -, heq⟩⟩ :=
      handleKey_cases s now event
    · exact ⟨[], by rw [heq]; rfl⟩
    · exact ⟨[], by rw [heq]; rfl⟩
    · exact ⟨[.setKey pressed true], by rw [heq]; rfl⟩
    · exact ⟨[.setKey released false], by rw [heq]; rfl⟩
  | expire overdue =>
    refine releaseOverdue_induction (motive := fun t => ∃ fed, t.emulator = s.emulator.after fed)
      overdue ⟨[], rfl⟩ ?_
    rintro t key ⟨fed, hfed⟩
    refine ⟨fed ++ [.setKey key false], ?_⟩
    rw [Emulator.after_append, ← hfed]
    rfl
  | update delta => exact ⟨[.update delta], rfl⟩
  | takeFrame =>
    show ∃ fed, s.takeFrame.2.emulator = s.emulator.after fed
    exact ⟨[.takeFrame], by rw [takeFrame_eq]; rfl⟩
  | status text => exact ⟨[], rfl⟩

theorem emulator_after (events : List Event) :
    ∃ fed, (s.after events).emulator = s.emulator.after fed := by
  induction events generalizing s with
  | nil => exact ⟨[], rfl⟩
  | cons event rest ih =>
    obtain ⟨first, hfirst⟩ := s.emulator_handle event
    obtain ⟨later, hlater⟩ := ih (s := s.handle event)
    refine ⟨first ++ later, ?_⟩
    rw [Emulator.after_append, ← hfirst]
    exact hlater

end Run

section Start

variable {e : Emulator} {key : Nibble}

theorem isHeld_start : (start e).isHeld key = false := by
  show ((Vector.replicate 16 none)[key.val] : Option Nat).isSome = false
  simp

theorem keysAgree_start (h : e.keys = .released) : (start e).KeysAgree := by
  intro key
  rw [isHeld_start]
  show e.keys.isDown key = false
  rw [h, Keypad.isDown_released]

end Start

end Session

end Chip8
