import Chip8.Emulator.Run
import Chip8.Main
import Chip8.Proofs.Checked.Emulation
import Chip8.Proofs.Emulator.Frames
import Chip8.Proofs.Machine.Subroutine
import Chip8.Proofs.Machine.Transfer
import Chip8.Proofs.Machine.SavedRegisters
import Chip8.Proofs.Instruction.Encoding
import Chip8.Proofs.Machine.Skip
import Chip8.Proofs.Emulator.Clocks
import Chip8.Proofs.Machine.Fault
import Chip8.Proofs.Emulator.Faults
import Chip8.Proofs.Machine.Dialect
import Chip8.Proofs.Emulator.RandomBytes
import Chip8.Proofs.Machine.Keys
import Chip8.Proofs.Terminal.Highlight
import Chip8.Proofs.Emulator.Polling
import Chip8.Proofs.Machine.Place
import Chip8.Proofs.Machine.Sprite
import Chip8.Proofs.Machine.Overdraw
import Chip8.Proofs.Machine.Arithmetic
import Chip8.Proofs.Machine.Footprint
import Chip8.Proofs.Emulator.Waiting
import Chip8.Proofs.Emulator.Construction
import Chip8.Proofs.Emulator.Pace
import Chip8.Proofs.Emulator.Countdown
import Chip8.Proofs.Machine.CallHistory
import Chip8.Proofs.Terminal.Backtrace
import Chip8.Proofs.Terminal.Room
import Chip8.Proofs.Terminal.Legible
import Chip8.Proofs.Terminal.Readout
import Chip8.Proofs.Terminal.Shown
import Chip8.Proofs.Terminal.Views
import Chip8.Proofs.Checked.Pixels
import Chip8.Proofs.Machine.Decimal
import Chip8.Proofs.Emulator.Glyphs
import Chip8.Proofs.Checked.Writing
import Chip8.Proofs.Emulator.Records
import Chip8.Proofs.Machine.StoppedTimer
import Chip8.Proofs.Text.Spelling
import Chip8.Proofs.CommandLine.Choice
