import Chip8.CommandLine.Launch
import Chip8.Console
import Chip8.Frontend.Desk
import Chip8.Keypad.Panel
import Chip8.Main
import Chip8.Number.Reading
import Chip8.Text.Message
import Chip8.Proofs.Machine.KeyWait
import Chip8.Proofs.Machine.Subroutine
import Chip8.Proofs.Machine.Interpreter
import Chip8.Proofs.Frontend.Observation
import Chip8.Proofs.Machine.Footprint
import Chip8.Proofs.Machine.Reset
import Chip8.Proofs.Instruction.Registration
import Chip8.Proofs.Instruction.Text
import Chip8.Proofs.Trace
import Chip8.Proofs.Machine.History
import Chip8.Proofs.Machine.Additive
import Chip8.Proofs.Machine.Lockstep
import Chip8.Proofs.Frontend.Shell
import Chip8.Proofs.Frontend.History
import Chip8.Proofs.Frontend.Stages
import Chip8.Proofs.Frontend.Session
import Chip8.Proofs.Frontend.Window
import Chip8.Proofs.Number.Packing
import Chip8.Proofs.Number.Rounding
import Chip8.Proofs.Number.Units
import Chip8.Proofs.Number.Share
import Chip8.Proofs.Frontend.Due
import Chip8.Proofs.Frontend.Play
import Chip8.Proofs.Machine.Commute
import Chip8.Proofs.Machine.Index
import Chip8.Proofs.Machine.Dialect
import Chip8.Proofs.Machine.Strict
import Chip8.Proofs.Machine.Logging
import Chip8.Proofs.Frontend.Loading
import Chip8.Proofs.Frontend.Release
import Chip8.Proofs.Machine.Arithmetic
import Chip8.Proofs.Machine.Control
import Chip8.Proofs.Machine.Transfer
import Chip8.Proofs.Machine.Draw
import Chip8.Proofs.Screen.Sprite
import Chip8.Proofs.Screen.Picture
import Chip8.Proofs.Memory.Write
import Chip8.Proofs.Frontend.Failure
import Chip8.Proofs.CommandLine.Arguments
import Chip8.Proofs.CommandLine.Launch
import Chip8.Proofs.Panel
import Chip8.Proofs.Beeper.Session
import Chip8.Proofs.Instruction.Order
import Chip8.Proofs.Frontend.Commands
import Chip8.Proofs.Text.Hex
import Chip8.Proofs.Machine.Dump
import Chip8.Proofs.Instruction.Layout
import Chip8.Proofs.Machine.Disassembly
