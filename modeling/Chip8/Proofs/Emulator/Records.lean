import Chip8.Proofs.Emulator.Faults
import Mathlib.Data.List.Forall2

namespace Chip8

namespace Machine

-- A cycle logs the word that it has fetched, and only then executes it.
def cycleLogging (m : Machine) (keys : Keypad) (log : List LogRecord) :
    List LogRecord × Cycle × Machine :=
  let address := m.registers.pc
  let opcode := m.nextOpcode
  let log := log ++ [.executing address opcode (.decode opcode)]
  let (outcome, next) := m.advance.execute keys address (.decode opcode)
  (log, ⟨address, opcode, outcome⟩, next)

def tickLogging (m : Machine) (keys : Keypad) (delta : Nat) (log : List LogRecord) :
    List LogRecord × Option Cycle × Machine :=
  if m.clock.due delta then
    let (log, cycle, next) := (m.timed delta).cycleLogging keys log
    (log, some cycle, next)
  else
    (log, none, m.timed delta)

theorem tickLogging_eq (m : Machine) (keys : Keypad) (delta : Nat) (log : List LogRecord) :
    m.tickLogging keys delta log =
      (log ++ (m.tick keys delta).1.toList.map fun cycle =>
          .executing cycle.address cycle.opcode cycle.instruction,
        m.tick keys delta) := by
  unfold tickLogging
  cases hdue : m.clock.due delta with
  | false => simp [tick_of_not_due hdue]
  | true =>
    rw [tick_of_due hdue]
    rfl

end Machine

namespace Emulator

def updateLogging (e : Emulator) (delta : Nat) (log : List LogRecord) :
    List LogRecord × Emulator :=
  let (log, cycle?, machine) := e.machine.tickLogging e.keys delta log
  let log :=
    match cycle?.bind Cycle.fault? with
    | some fault => log ++ [.faulted fault]
    | none => log
  (log, { e with
    machine
    frameClock := e.frameClock.tick delta
    frameDue := e.frameDue || e.frameClock.due delta })

def handleLogging (state : List LogRecord × Emulator) : Event → List LogRecord × Emulator
  | .update delta => state.2.updateLogging delta state.1
  | .setKey key down => (state.1, state.2.setKey key down)
  | .takeFrame => (state.1, state.2.takeFrame.2)

-- The records from construction on. An emulator that cannot be built logs
-- nothing.
def lifeLog (c : Config) (unseeded : RandomKey) (font program : List UInt8)
    (events : List Event) : List LogRecord :=
  match new c unseeded font program with
  | .ok e => (events.foldl handleLogging ([loadRecord c font program], e)).1
  | .error _ => []

section Logging

variable (e : Emulator) (log : List LogRecord)

theorem updateLogging_eq (delta : Nat) :
    e.updateLogging delta log = (log ++ (e.update delta).1.log, (e.update delta).2) := by
  simp only [updateLogging, Machine.tickLogging_eq]
  refine Prod.ext ?_ rfl
  have hreport : (e.update delta).1.cycle? = (e.machine.tick e.keys delta).1 := rfl
  rw [Report.log, hreport]
  cases (e.machine.tick e.keys delta).1 with
  | none => simp
  | some cycle => cases h : cycle.fault? <;> simp [h]

theorem handleLogging_eq (event : Event) :
    handleLogging (log, e) event =
      (log ++ (e.handle event).1.log, (e.handle event).2) := by
  cases event with
  | update delta => exact e.updateLogging_eq log delta
  | setKey key down => exact congrArg (·, _) (List.append_nil log).symm
  | takeFrame => exact congrArg (·, _) (List.append_nil log).symm

theorem foldl_handleLogging (events : List Event) :
    events.foldl handleLogging (log, e) = (log ++ e.runLog events, e.after events) := by
  induction events generalizing e log with
  | nil => exact congrArg (·, e) (List.append_nil log).symm
  | cons event rest ih =>
    rw [List.foldl_cons, handleLogging_eq, ih, List.append_assoc]
    rfl

end Logging

inductive Origin where
  | loading
  | execution (k : Nat)
  | fault (k : Nat)
  deriving DecidableEq, Repr

namespace Origin

-- The place of an origin in time: a fault comes right behind its execution.
def rank : Origin → Nat
  | loading => 0
  | execution k => 2 * k + 1
  | fault k => 2 * k + 2

def level : Origin → LogLevel
  | loading => .debug
  | execution _ => .trace
  | fault _ => .warn

end Origin

-- Later origins stand behind earlier ones, and none stands there twice.
def Rising (origins : List Origin) : Prop :=
  origins.Pairwise fun first second => first.rank < second.rank

-- Event `k` of the run was an update, and this is its report.
def ReportsAt (e : Emulator) (events : List Event) (k : Nat) (report : Report) : Prop :=
  (e.responses events)[k]? = some (.report report)

def Happens (e : Emulator) (events : List Event) : Origin → Prop
  | .loading => True
  | .execution k => ∃ report, e.ReportsAt events k report ∧ report.executed = true
  | .fault k => ∃ report, e.ReportsAt events k report ∧ report.fault?.isSome = true

-- What the record of an origin says. That of an execution tells where the
-- program counter was before the word was fetched, the word, and what it decodes
-- to; that of a fault tells the fault reported.
def Tells (e : Emulator) (events : List Event) (loaded record : LogRecord) : Origin → Prop
  | .loading => record = loaded
  | .execution k =>
    let m := (e.before events k).machine
    record = .executing m.registers.pc m.nextOpcode (.decode m.nextOpcode)
  | .fault k =>
    ∃ report fault, e.ReportsAt events k report ∧ report.fault? = some fault ∧
      record = .faulted fault

structure Records (e : Emulator) (events : List Event) (loaded : LogRecord) (origin : Origin)
    (record : LogRecord) : Prop where
  tells : e.Tells events loaded record origin
  level_eq : record.level = origin.level

def Response.origins (k : Nat) : Response → List Origin
  | .report r =>
    if r.executed then .execution k :: (if r.fault?.isSome then [.fault k] else []) else []
  | _ => []

def runOrigins (e : Emulator) (events : List Event) : List Origin :=
  (e.responses events).zipIdx.flatMap fun (response, k) => response.origins k

section Response

variable {k : Nat} {response : Response} {origin : Origin}

theorem executed_of_fault? {report : Report} (h : report.fault?.isSome = true) :
    report.executed = true := by
  unfold Report.fault? at h
  unfold Report.executed
  cases hcycle : report.cycle? with
  | none => rw [hcycle] at h; exact h
  | some cycle => rfl

theorem mem_origins_iff :
    origin ∈ response.origins k ↔
      ∃ report, response = .report report ∧
        (origin = .execution k ∧ report.executed = true ∨
          origin = .fault k ∧ report.fault?.isSome = true) := by
  cases response with
  | report report =>
    simp only [Response.report.injEq, exists_eq_left']
    by_cases hfault : report.fault?.isSome = true
    · simp [Response.origins, executed_of_fault? hfault, hfault]
    · by_cases hexecuted : report.executed = true <;> simp [Response.origins, hexecuted, hfault]
  | silent => simp [Response.origins]
  | frame display? => simp [Response.origins]

theorem rank_of_mem_origins (h : origin ∈ response.origins k) :
    2 * k < origin.rank ∧ origin.rank ≤ 2 * k + 2 := by
  obtain ⟨report, -, ⟨rfl, -⟩ | ⟨rfl, -⟩⟩ := mem_origins_iff.mp h
  · exact ⟨Nat.lt_succ_self _, Nat.le_succ _⟩
  · exact ⟨by simp only [Origin.rank]; omega, Nat.le_refl _⟩

theorem rising_origins (k : Nat) (response : Response) : Rising (response.origins k) := by
  unfold Rising Response.origins
  split
  · split
    · split <;> simp [Origin.rank]
    · exact List.Pairwise.nil
  · exact List.Pairwise.nil

end Response

section Run

variable {e : Emulator} {events : List Event} {k : Nat}

theorem records_report {report : Report} {cycle : Cycle} (hreport : e.ReportsAt events k report)
    (hcycle : report.cycle? = some cycle)
    (haddress : cycle.address = (e.before events k).machine.registers.pc)
    (hopcode : cycle.opcode = (e.before events k).machine.nextOpcode) (loaded : LogRecord) :
    List.Forall₂ (e.Records events loaded) (Response.origins k (.report report)) report.log := by
  have hfault : report.fault? = cycle.fault? := by rw [Report.fault?, hcycle, Option.bind_some]
  have hexecuting : e.Tells events loaded
      (.executing cycle.address cycle.opcode cycle.instruction) (.execution k) := by
    rw [Cycle.instruction, haddress, hopcode]
    rfl
  simp only [Response.origins, Report.executed, Report.log, hcycle, hfault, Option.isSome_some,
    if_true]
  refine .cons ⟨hexecuting, rfl⟩ ?_
  cases h : cycle.fault? with
  | none => exact .nil
  | some fault => exact .cons ⟨⟨report, fault, hreport, hfault.trans h, rfl⟩, rfl⟩ .nil

theorem records_response {response : Response} (h : (e.responses events)[k]? = some response)
    (loaded : LogRecord) :
    List.Forall₂ (e.Records events loaded) (response.origins k) response.log := by
  have hevent := h
  rw [getElem?_responses, Option.map_eq_some_iff] at hevent
  obtain ⟨event, -, rfl⟩ := hevent
  cases event with
  | update delta =>
    cases hdue : (e.before events k).machine.clock.due delta with
    | false =>
      have hcycle := (update_of_not_due hdue).1
      show List.Forall₂ _ (Response.origins k (.report ((e.before events k).update delta).1))
        ((e.before events k).update delta).1.log
      simp only [Response.origins, Report.executed, Report.log, hcycle]
      exact .nil
    | true => exact records_report h (update_of_due hdue).1 rfl rfl loaded
  | setKey key down => exact .nil
  | takeFrame => exact .nil

theorem records_runLog (loaded : LogRecord) :
    List.Forall₂ (e.Records events loaded) (e.runOrigins events) (e.runLog events) := by
  have hlog : e.runLog events =
      (e.responses events).zipIdx.flatMap fun (response, _) => response.log := by
    rw [runLog, ← List.flatMap_map Prod.fst, List.zipIdx_map_fst]
  have hsame : List.Forall₂
      (fun first second => first = second ∧ first ∈ (e.responses events).zipIdx)
      (e.responses events).zipIdx (e.responses events).zipIdx :=
    List.forall₂_same.mpr fun entry hentry => ⟨rfl, hentry⟩
  rw [hlog]
  refine List.rel_flatMap hsame ?_
  rintro ⟨response, k⟩ entry ⟨rfl, hentry⟩
  exact records_response (List.mem_zipIdx_iff_getElem?.mp hentry) loaded

theorem mem_runOrigins_iff {origin : Origin} :
    origin ∈ e.runOrigins events ↔ origin ≠ .loading ∧ e.Happens events origin := by
  simp only [runOrigins, List.mem_flatMap, Prod.exists, List.mem_zipIdx_iff_getElem?,
    mem_origins_iff]
  constructor
  · rintro ⟨_, k, hresponse, report, rfl, ⟨rfl, hexecuted⟩ | ⟨rfl, hfault⟩⟩
    · exact ⟨nofun, report, hresponse, hexecuted⟩
    · exact ⟨nofun, report, hresponse, hfault⟩
  · rintro ⟨hrun, h⟩
    cases origin with
    | loading => exact absurd rfl hrun
    | execution k =>
      obtain ⟨report, hreport, hexecuted⟩ := h
      exact ⟨_, k, hreport, report, rfl, .inl ⟨rfl, hexecuted⟩⟩
    | fault k =>
      obtain ⟨report, hreport, hfault⟩ := h
      exact ⟨_, k, hreport, report, rfl, .inr ⟨rfl, hfault⟩⟩

theorem rising_runOrigins : Rising (e.runOrigins events) := by
  have hindices : (e.responses events).zipIdx.Pairwise fun first second => first.2 < second.2 := by
    rw [← List.pairwise_map, List.zipIdx_map_snd]
    exact List.pairwise_lt_range'
  refine List.pairwise_flatMap.mpr ⟨fun entry _ => rising_origins entry.2 entry.1, ?_⟩
  refine hindices.imp fun hlt first hfirst second hsecond => ?_
  have hbefore := rank_of_mem_origins hfirst
  have hbehind := rank_of_mem_origins hsecond
  omega

end Run

-- In a list that rises without a gap behind `first`, `second` is the next.
theorem getElem?_succ_of_rank {origins : List Origin} {first second : Origin} {i : Nat}
    (hrising : Rising origins) (hfirst : origins[i]? = some first) (hsecond : second ∈ origins)
    (hrank : second.rank = first.rank + 1) : origins[i + 1]? = some second := by
  obtain ⟨hi, rfl⟩ := List.getElem?_eq_some_iff.mp hfirst
  obtain ⟨j, hj, rfl⟩ := List.getElem_of_mem hsecond
  have hlt := List.pairwise_iff_getElem.mp hrising
  have hij : i < j := by
    refine Nat.lt_of_not_le fun hle => ?_
    rcases Nat.lt_or_eq_of_le hle with hji | rfl
    · have hback := hlt j i hj hi hji
      omega
    · omega
  have hnext : j = i + 1 := by
    refine Nat.le_antisymm (Nat.le_of_not_lt fun hgap => ?_) hij
    have hthere := hlt i (i + 1) hi (by omega) (Nat.lt_succ_self i)
    have hbeyond := hlt (i + 1) j (by omega) hj hgap
    omega
  subst hnext
  exact List.getElem?_eq_getElem hj

-- The log of an emulator that is built and run tells of all that happens, each
-- once and in order: that it is loaded, every execution, and every fault right
-- behind its execution.
theorem log_tells_what_happens {c : Config} {unseeded : RandomKey} {font program : List UInt8}
    {e : Emulator} (hnew : new c unseeded font program = .ok e) (events : List Event) :
    lifeLog c unseeded font program events = loadRecord c font program :: e.runLog events ∧
    ∃ origins : List Origin,
      List.Forall₂ (e.Records events (loadRecord c font program)) origins
        (lifeLog c unseeded font program events) ∧
      Rising origins ∧
      (∀ origin, origin ∈ origins ↔ e.Happens events origin) ∧
      ∀ i k, origins[i]? = some (.execution k) →
        (origins[i + 1]? = some (.fault k) ↔ e.Happens events (.fault k)) := by
  have hlog : lifeLog c unseeded font program events =
      loadRecord c font program :: e.runLog events := by
    simp only [lifeLog, hnew]
    rw [foldl_handleLogging]
    rfl
  have hrising : Rising (.loading :: e.runOrigins events) := by
    refine List.pairwise_cons.mpr ⟨fun origin horigin => ?_, rising_runOrigins⟩
    cases origin with
    | loading => exact absurd rfl (mem_runOrigins_iff.mp horigin).1
    | execution k => exact Nat.succ_pos _
    | fault k => exact Nat.succ_pos _
  have hmem (origin : Origin) :
      origin ∈ Origin.loading :: e.runOrigins events ↔ e.Happens events origin := by
    rw [List.mem_cons, mem_runOrigins_iff]
    by_cases h : origin = .loading
    · subst h
      exact iff_of_true (.inl rfl) trivial
    · rw [or_iff_right h, and_iff_right h]
  refine ⟨hlog, .loading :: e.runOrigins events, hlog ▸ .cons ⟨rfl, rfl⟩ (records_runLog _),
    hrising, hmem, fun i k hexecution => ?_⟩
  constructor
  · intro hfault
    exact (hmem _).mp (List.mem_of_getElem? hfault)
  · intro hhappens
    exact getElem?_succ_of_rank hrising hexecution ((hmem _).mpr hhappens) rfl

-- Four bytes of memory, a jump past their end, and a word there that is no
-- instruction.
def farJump : Config where
  memorySize := 4
  programAddress := 2
  fontAddress := 0

def farJumpEvents : List Event :=
  [.takeFrame, .update Timer.second, .setKey 3 true, .update 0, .update Timer.second]

theorem log_tells_what_happens_farJump :
    ∃ e, new farJump (Vector.replicate 8 0) [0xF0] [0x1F, 0xFF] = .ok e ∧
      lifeLog farJump (Vector.replicate 8 0) [0xF0] [0x1F, 0xFF] farJumpEvents =
        [.loaded 1 0 2 2, .executing 2 0x1FFF (.jump 0xFFF),
          .executing 0xFFF 0xFFF0 (.unknown 0xFFF0), .faulted ⟨0xFFF0, 0xFFF⟩] ∧
      e.runLog farJumpEvents = [.executing 2 0x1FFF (.jump 0xFFF),
        .executing 0xFFF 0xFFF0 (.unknown 0xFFF0), .faulted ⟨0xFFF0, 0xFFF⟩] ∧
      ∃ origins : List Origin, origins.length = 4 ∧
        ∀ origin, origin ∈ origins ↔ e.Happens farJumpEvents origin := by
  have hnew : new farJump (Vector.replicate 8 0) [0xF0] [0x1F, 0xFF] =
      .ok (built farJump (Vector.replicate 8 0) [0xF0] [0x1F, 0xFF]) :=
    new_eq_ok_iff.mpr ⟨by decide, by decide, by decide, by decide, rfl⟩
  have hlog : lifeLog farJump (Vector.replicate 8 0) [0xF0] [0x1F, 0xFF] farJumpEvents =
      [.loaded 1 0 2 2, .executing 2 0x1FFF (.jump 0xFFF),
        .executing 0xFFF 0xFFF0 (.unknown 0xFFF0), .faulted ⟨0xFFF0, 0xFFF⟩] := by
    rw [lifeLog, hnew]
    decide
  obtain ⟨hrun, origins, htells, -, hmem, -⟩ := log_tells_what_happens hnew farJumpEvents
  rw [hlog] at hrun htells
  exact ⟨_, hnew, hlog, (List.cons.inj hrun).2.symm, origins, htells.length_eq, hmem⟩

end Emulator

end Chip8
