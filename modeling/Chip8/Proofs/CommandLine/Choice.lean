import Chip8.CommandLine.Command
import Chip8.Proofs.Text.Spelling
import Mathlib.Data.List.Perm.Basic

namespace Chip8.CommandLine

structure Written {α : Type} (Writes : String → α → Prop) where
  text : String
  value : α
  writes : Writes text value

-- A path stands for itself. It is not empty and not taken for an option.
def WritesPath (text path : String) : Prop :=
  text = path ∧ text ≠ "" ∧ text.toList.head? ≠ some '-'

def WritesDialect (text : String) (dialect : Dialect) : Prop :=
  text = "cosmac-vip" ∧ dialect = .cosmacVip ∨ text = "modern" ∧ dialect = .modern

def WritesRate (text : String) (rate : UInt32) : Prop := Text.Spells 10 text.toList rate.toNat

def WritesSeed (text : String) (seed : UInt64) : Prop := Text.Spells 10 text.toList seed.toNat

def WritesAddress (text : String) (address : UInt16) : Prop :=
  Text.Spells 10 text.toList address.toNat ∨
    ∃ digits, text.toList = '0' :: 'x' :: digits ∧ Text.Spells 16 digits address.toNat

structure Choice where
  program : Written WritesPath
  font? : Option (Written WritesPath)
  logFile? : Option (Written WritesPath)
  dialect? : Option (Written WritesDialect)
  instructionRate? : Option (Written WritesRate)
  programAddress? : Option (Written WritesAddress)
  fontAddress? : Option (Written WritesAddress)
  seed? : Option (Written WritesSeed)

structure Part where
  target : Target
  text : String
  deriving DecidableEq

def Part.words (p : Part) : List String :=
  match p.target with
  | .program => [p.text]
  | .option name => ["--" ++ name.text, p.text]

def Target.all : List Target := .program :: OptionName.all.map .option

namespace Choice

def text? (c : Choice) : Target → Option String
  | .program => some c.program.text
  | .option .font => c.font?.map Written.text
  | .option .dialect => c.dialect?.map Written.text
  | .option .instructionRate => c.instructionRate?.map Written.text
  | .option .programAddress => c.programAddress?.map Written.text
  | .option .fontAddress => c.fontAddress?.map Written.text
  | .option .seed => c.seed?.map Written.text
  | .option .logFile => c.logFile?.map Written.text

def parts (c : Choice) : List Part :=
  Target.all.filterMap fun target => (c.text? target).map (Part.mk target)

-- The default configuration with the fields replaced that were chosen.
def config (c : Choice) : Config :=
  let default : Config := {}
  { default with
    dialect := (c.dialect?.map Written.value).getD default.dialect
    instructionRate := (c.instructionRate?.map Written.value).getD default.instructionRate
    programAddress := (c.programAddress?.map Written.value).getD default.programAddress
    fontAddress := (c.fontAddress?.map Written.value).getD default.fontAddress
    seed := (c.seed?.map Written.value).or default.seed }

def command (c : Choice) : Command where
  programPath := c.program.value
  fontPath? := c.font?.map Written.value
  logFile? := c.logFile?.map Written.value
  config := c.config

def settings (c : Choice) : Settings where
  program := some c.program.value
  font := c.font?.map Written.value
  dialect := c.dialect?.map Written.value
  instructionRate := c.instructionRate?.map Written.value
  programAddress := c.programAddress?.map Written.value
  fontAddress := c.fontAddress?.map Written.value
  seed := c.seed?.map Written.value
  logFile := c.logFile?.map Written.value

end Choice

section Reading

variable {text : String}

theorem shape_of_plain (h : text.toList.head? ≠ some '-') : Shape.of text = .plain := by
  unfold Shape.of
  split
  · rename_i heq
    exact absurd (congrArg List.head? heq) h
  · rename_i heq
    exact absurd (congrArg List.head? heq) h
  · rename_i heq
    exact absurd (congrArg List.head? heq) h
  · rfl

theorem shape_of_option (name : OptionName) :
    Shape.of ("--" ++ name.text) = .long name.text none := by
  cases name <;> rfl

theorem ofText?_text (name : OptionName) : OptionName.ofText? name.text = some name := by
  cases name <;> rfl

theorem head?_of_spells {radix n : Nat} (hradix : radix ≤ 16) {cs : List Char}
    (h : Text.Spells radix cs n) : cs.head? ≠ some '-' := fun hhead =>
  h.ne_of_mem hradix (List.mem_of_head? hhead) (by decide) rfl

theorem head?_of_writesDialect {dialect : Dialect} (h : WritesDialect text dialect) :
    text.toList.head? ≠ some '-' := by
  obtain ⟨rfl, -⟩ | ⟨rfl, -⟩ := h <;> decide

theorem head?_of_writesAddress {address : UInt16} (h : WritesAddress text address) :
    text.toList.head? ≠ some '-' := by
  rcases h with h | ⟨digits, htext, -⟩
  · exact head?_of_spells (by omega) h
  · rw [htext]
    exact fun hhead => absurd (Option.some.inj hhead) (by decide)

theorem readPath_of_writes {target : Target} {path : String} (h : WritesPath text path) :
    readPath target text = .ok path := by
  obtain ⟨rfl, hne, -⟩ := h
  rw [readPath, if_neg (by simpa using hne)]

theorem readDialect_of_writes {dialect : Dialect} (h : WritesDialect text dialect) :
    readDialect text = .ok dialect := by
  obtain ⟨rfl, rfl⟩ | ⟨rfl, rfl⟩ := h <;> rfl

theorem readNumber_of_eq {α : Type} {ofText? : String → Option α} {target : Target} {value : α}
    (h : ofText? text = some value) : readNumber ofText? target text = .ok value := by
  rw [readNumber, h]

theorem rateOfText?_of_writes {rate : UInt32} (h : WritesRate text rate) :
    rateOfText? text = some rate := by
  rw [rateOfText?, h.signed?_eq]
  show (if rate.toNat < UInt32.size then some (UInt32.ofNat rate.toNat) else none) = some rate
  rw [if_pos rate.toNat_lt, UInt32.ofNat_toNat]

theorem seedOfText?_of_writes {seed : UInt64} (h : WritesSeed text seed) :
    seedOfText? text = some seed := by
  rw [seedOfText?, h.unsigned?_eq (by omega)]
  show (if seed.toNat < UInt64.size then some (UInt64.ofNat seed.toNat) else none) = some seed
  rw [if_pos seed.toNat_lt, UInt64.ofNat_toNat]

-- The letter behind a zero tells the radix, since it is no digit.
theorem addressNumber?_of_writes {address : UInt16} (h : WritesAddress text address) :
    addressNumber? text.toList = some address.toNat := by
  rcases h with h | ⟨digits, htext, h⟩
  · unfold addressNumber?
    have hno (other : Char) (hother : Text.digitValue? other = none) : other ∉ text.toList :=
      fun hmem => h.ne_of_mem (by omega) hmem hother rfl
    split
    · rename_i heq
      exact absurd (by rw [heq]; simp) (hno 'x' (by decide))
    · rename_i heq
      exact absurd (by rw [heq]; simp) (hno 'X' (by decide))
    · exact h.unsigned?_eq (by omega)
  · rw [htext]
    exact h.unsigned?_eq (by omega)

theorem addressOfText?_of_writes {address : UInt16} (h : WritesAddress text address) :
    addressOfText? text = some address := by
  rw [addressOfText?, addressNumber?_of_writes h]
  show (if address.toNat < UInt16.size then some (UInt16.ofNat address.toNat) else none) =
    some address
  rw [if_pos address.toNat_lt, UInt16.ofNat_toNat]

end Reading

namespace Settings

-- The settings with one value taken over from others, as far as these have it.
def adopt (s source : Settings) : Target → Settings
  | .program => { s with program := source.program.or s.program }
  | .option .font => { s with font := source.font.or s.font }
  | .option .dialect => { s with dialect := source.dialect.or s.dialect }
  | .option .instructionRate =>
    { s with instructionRate := source.instructionRate.or s.instructionRate }
  | .option .programAddress =>
    { s with programAddress := source.programAddress.or s.programAddress }
  | .option .fontAddress => { s with fontAddress := source.fontAddress.or s.fontAddress }
  | .option .seed => { s with seed := source.seed.or s.seed }
  | .option .logFile => { s with logFile := source.logFile.or s.logFile }

theorem has_adopt (s source : Settings) (target other : Target) :
    (s.adopt source target).has other =
      if other = target then source.has other || s.has other else s.has other := by
  rcases target with _ | (_ | _ | _ | _ | _ | _ | _) <;>
    rcases other with _ | (_ | _ | _ | _ | _ | _ | _) <;> simp [has, adopt]

theorem adopt_comm (s source : Settings) (target other : Target) :
    (s.adopt source target).adopt source other = (s.adopt source other).adopt source target := by
  rcases target with _ | (_ | _ | _ | _ | _ | _ | _) <;>
    rcases other with _ | (_ | _ | _ | _ | _ | _ | _) <;> rfl

end Settings

section Choosing

variable {c : Choice} {target : Target} {text : String}

theorem shape_of_written {α : Type} {Writes : String → α → Prop} {chosen? : Option (Written Writes)}
    (hplain : ∀ {text value}, Writes text value → text.toList.head? ≠ some '-')
    (h : chosen?.map Written.text = some text) : Shape.of text = .plain := by
  obtain ⟨written, -, rfl⟩ := Option.map_eq_some_iff.mp h
  exact shape_of_plain (hplain written.writes)

theorem shape_of_text? (h : c.text? target = some text) : Shape.of text = .plain := by
  have hspells {cs : List Char} {n : Nat} := @head?_of_spells 10 n (by omega) cs
  cases target with
  | program =>
    obtain rfl := Option.some.inj h
    exact shape_of_plain c.program.writes.2.2
  | option name =>
    cases name with
    | font => exact shape_of_written (·.2.2) h
    | dialect => exact shape_of_written head?_of_writesDialect h
    | instructionRate => exact shape_of_written hspells h
    | programAddress => exact shape_of_written head?_of_writesAddress h
    | fontAddress => exact shape_of_written head?_of_writesAddress h
    | seed => exact shape_of_written hspells h
    | logFile => exact shape_of_written (·.2.2) h

theorem withText_eq (s : Settings) (h : c.text? target = some text) :
    s.withText target text = .ok (s.adopt c.settings target) := by
  cases target with
  | program =>
    obtain rfl := Option.some.inj h
    rw [Settings.withText, readPath_of_writes c.program.writes]
    rfl
  | option name =>
    cases name <;> obtain ⟨written, hchosen, rfl⟩ := Option.map_eq_some_iff.mp h <;>
      rw [Settings.withText, Settings.adopt, Choice.settings, hchosen]
    case font => rw [readPath_of_writes written.writes]; rfl
    case dialect => rw [readDialect_of_writes written.writes]; rfl
    case instructionRate =>
      rw [readNumber_of_eq (rateOfText?_of_writes written.writes)]; rfl
    case programAddress =>
      rw [readNumber_of_eq (addressOfText?_of_writes written.writes)]; rfl
    case fontAddress =>
      rw [readNumber_of_eq (addressOfText?_of_writes written.writes)]; rfl
    case seed => rw [readNumber_of_eq (seedOfText?_of_writes written.writes)]; rfl
    case logFile => rw [readPath_of_writes written.writes]; rfl

theorem adopt_of_text?_eq_none (s : Settings) (h : c.text? target = none) :
    s.adopt c.settings target = s := by
  cases target with
  | program => exact nomatch h
  | option name =>
    cases name <;> have hnone := Option.map_eq_none_iff.mp h <;>
      rw [Settings.adopt, Choice.settings, hnone] <;> rfl

theorem map_target_parts (c : Choice) :
    c.parts.map Part.target = Target.all.filter fun target => (c.text? target).isSome := by
  rw [Choice.parts, List.map_filterMap, ← List.filterMap_eq_filter]
  congr 1
  funext target
  cases h : c.text? target <;> simp [Option.guard, h]

theorem foldl_parts (c : Choice) :
    c.parts.foldl (fun s part => s.adopt c.settings part.target) {} = c.settings := by
  have hstep (s : Settings) (target : Target) :
      (if (c.text? target).isSome then s.adopt c.settings target else s) =
        s.adopt c.settings target := by
    cases h : c.text? target with
    | some text => rfl
    | none => exact (adopt_of_text?_eq_none s h).symm
  have htargets : c.parts.foldl (fun s part => s.adopt c.settings part.target) ({} : Settings) =
      (c.parts.map Part.target).foldl (fun s target => s.adopt c.settings target) {} :=
    List.foldl_map.symm
  rw [htargets, map_target_parts, List.foldl_filter]
  simp only [hstep]
  simp [Target.all, OptionName.all, Settings.adopt, Choice.settings]

theorem mem_parts_iff {part : Part} : part ∈ c.parts ↔ c.text? part.target = some part.text := by
  have hall : ∀ target, target ∈ Target.all := by
    intro target
    cases target with
    | program => decide
    | option name => cases name <;> decide
  simp only [Choice.parts, List.mem_filterMap, Option.map_eq_some_iff]
  constructor
  · rintro ⟨target, -, text, htext, rfl⟩
    exact htext
  · intro h
    exact ⟨part.target, hall _, part.text, h, rfl⟩

theorem nodup_targets (c : Choice) : (c.parts.map Part.target).Nodup := by
  rw [map_target_parts]
  exact List.Pairwise.filter _ (by decide : Target.all.Nodup)

end Choosing

section Scanning

def Part.item (p : Part) : Item := .value p.target (some p.text) false

theorem scan_words {parts : List Part} (hplain : ∀ part ∈ parts, Shape.of part.text = .plain)
    (hnodup : (parts.map Part.target).Nodup) {given : Bool}
    (hgiven : given = true → .program ∉ parts.map Part.target) :
    scan none given (parts.flatMap Part.words) = parts.map Part.item := by
  induction parts generalizing given with
  | nil => rfl
  | cons part rest ih =>
    obtain ⟨target, text⟩ := part
    obtain ⟨hfresh, hrest⟩ := List.nodup_cons.mp hnodup
    have htext : Shape.of text = .plain := hplain _ (List.mem_cons_self ..)
    have hscan (given' : Bool) (hgiven' : given' = true → .program ∉ rest.map Part.target) :=
      ih (fun part hpart => hplain part (List.mem_cons_of_mem _ hpart)) hrest hgiven'
    rw [List.flatMap_cons]
    cases target with
    | program =>
      have hfirst : given = false :=
        Bool.eq_false_iff.mpr fun h => hgiven h (List.mem_cons_self ..)
      show scan none given (text :: rest.flatMap Part.words) = _
      rw [scan, htext, hfirst]
      exact congrArg _ (hscan true fun _ => hfresh)
    | option name =>
      have hlater (h : given = true) : Target.program ∉ rest.map Part.target :=
        fun hmem => hgiven h (List.mem_cons_of_mem _ hmem)
      show scan none given (("--" ++ name.text) :: text :: rest.flatMap Part.words) = _
      rw [scan, shape_of_option]
      simp only [ofText?_text]
      rw [scan, htext]
      exact congrArg (List.cons _) (hscan given hlater)

theorem readItems_value {s next : Settings} {target : Target} {text? : Option String}
    (h : s.assign target text? = .ok next) (attached : Bool) (rest : List Item) :
    s.readItems (.value target text? attached :: rest) = next.readItems rest := by
  rw [Settings.readItems.eq_def]
  simp only [h]

theorem readItems_parts {source s : Settings} {parts : List Part}
    (hreads : ∀ part ∈ parts, ∀ s : Settings,
      s.withText part.target part.text = .ok (s.adopt source part.target))
    (hnodup : (parts.map Part.target).Nodup)
    (hfresh : ∀ part ∈ parts, s.has part.target = false) :
    s.readItems (parts.map Part.item) =
      .ok (parts.foldl (fun s part => s.adopt source part.target) s) := by
  induction parts generalizing s with
  | nil => rfl
  | cons part rest ih =>
    obtain ⟨hother, hrest⟩ := List.nodup_cons.mp hnodup
    have hassign : s.assign part.target (some part.text) = .ok (s.adopt source part.target) := by
      rw [Settings.assign, hfresh part (List.mem_cons_self ..)]
      exact hreads part (List.mem_cons_self ..) s
    refine (readItems_value hassign false (rest.map Part.item)).trans ?_
    refine ih (fun part hpart => hreads part (List.mem_cons_of_mem _ hpart)) hrest ?_
    intro later hlater
    have hne : later.target ≠ part.target := fun heq =>
      hother (heq ▸ List.mem_map_of_mem hlater)
    rw [Settings.has_adopt, if_neg hne]
    exact hfresh later (List.mem_cons_of_mem _ hlater)

end Scanning

-- The arguments of a choice, in whatever order its parts stand, are parsed into
-- what was chosen.
theorem parse_any_order (c : Choice) {parts : List Part} (horder : parts.Perm c.parts) :
    parse (parts.flatMap Part.words) = .ok c.command := by
  have hnodup : (parts.map Part.target).Nodup :=
    (horder.map Part.target).nodup_iff.mpr (nodup_targets c)
  have htext (part : Part) (hpart : part ∈ parts) : c.text? part.target = some part.text :=
    mem_parts_iff.mp (horder.mem_iff.mp hpart)
  have hscan : scan none false (parts.flatMap Part.words) = parts.map Part.item :=
    scan_words (fun part hpart => shape_of_text? (htext part hpart)) hnodup Bool.noConfusion
  have hread : Settings.readItems {} (parts.map Part.item) = .ok c.settings := by
    rw [readItems_parts (fun part hpart s => withText_eq s (htext part hpart)) hnodup]
    · rw [horder.foldl_eq' fun first _ second _ s => s.adopt_comm c.settings _ _, foldl_parts]
    · intro part _
      cases part.target with
      | program => rfl
      | option name => cases name <;> rfl
  have hconfig : c.settings.config = c.config := by
    rw [Choice.config, Option.or_none]
    rfl
  have hcommand : parse (parts.flatMap Part.words) =
      .ok ⟨c.program.value, c.settings.font, c.settings.logFile, c.settings.config⟩ := by
    rw [parse, hscan, hread]
    rfl
  rw [hcommand, hconfig]
  rfl

-- A program, a log file, and all numbers but the rate.
def someOptions : Choice where
  program := ⟨"pong", "pong", rfl, by decide, by decide⟩
  font? := none
  logFile? := some ⟨"a=b", "a=b", rfl, by decide, by decide⟩
  dialect? := some ⟨"modern", .modern, .inr ⟨rfl, rfl⟩⟩
  instructionRate? := none
  programAddress? := some ⟨"0x02aF", 0x2AF,
    .inr ⟨['0', '2', 'a', 'F'], rfl, (Text.natural?_eq_some_iff (by omega)).mp (by decide)⟩⟩
  fontAddress? := some ⟨"0100", 100, .inl ((Text.natural?_eq_some_iff (by omega)).mp (by decide))⟩
  seed? := some ⟨"18446744073709551615", 0xFFFFFFFFFFFFFFFF,
    (Text.natural?_eq_some_iff (by omega)).mp (by decide)⟩

theorem parse_any_order_someOptions :
    parse ["--seed", "18446744073709551615", "--quirks", "modern", "pong", "--font-address", "0100",
        "--log-file", "a=b", "--program-address", "0x02aF"] =
      .ok {
        programPath := "pong"
        fontPath? := none
        logFile? := some "a=b"
        config := {
          dialect := .modern
          programAddress := 0x2AF
          fontAddress := 100
          seed := some 0xFFFFFFFFFFFFFFFF } } := by
  have horder : [⟨.option .seed, "18446744073709551615"⟩, ⟨.option .dialect, "modern"⟩,
      ⟨.program, "pong"⟩, ⟨.option .fontAddress, "0100"⟩, ⟨.option .logFile, "a=b"⟩,
      ⟨.option .programAddress, "0x02aF"⟩].Perm someOptions.parts := by decide
  exact parse_any_order someOptions horder

end Chip8.CommandLine
