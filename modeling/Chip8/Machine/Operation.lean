import Chip8.Machine.Step

/-!
What a host does with a machine, as data: the operations of its interface, and
stores and loads into its memory.
-/

namespace Chip8

inductive Operation where
  | step
  | run (n : Int)
  | tick
  | keyDown (i : Int)
  | keyUp (i : Int)
  | press (name : String)
  | release (name : String)
  | reset
  | store (a value : Int)
  | load (image : Array UInt8) (start : Int)
  | clearProgram
  deriving DecidableEq

/-- The answer of an operation that has one. -/
abbrev Answer := Option Bool

namespace Machine

def withMemory (m : Machine) : Except Fault Memory → Outcome Unit
  | .ok memory => ⟨{ m with memory }, .ok (), []⟩
  | .error f => ⟨m, .error f, []⟩

def load (m : Machine) (image : Array UInt8) (start : Int) : Outcome Unit :=
  m.withMemory (m.memory.load image start)

def store (m : Machine) (a value : Int) : Outcome Unit :=
  ⟨{ m with memory := m.memory.store a value }, .ok (), m.memory.storeEvents a value⟩

end Machine

namespace Outcome

def silent (o : Outcome Unit) : Outcome Answer :=
  ⟨o.machine, o.result.map fun _ => none, o.events⟩

def answered (o : Outcome Bool) : Outcome Answer :=
  ⟨o.machine, o.result.map some, o.events⟩

end Outcome

namespace Machine

def apply (m : Machine) : Operation → Outcome Answer
  | .step => m.step.answered
  | .run n => (m.run n.toNat).answered
  | .tick => ⟨m.tick, .ok none, []⟩
  | .keyDown i => (m.keyDown i).silent
  | .keyUp i => (m.keyUp i).silent
  | .press name => (m.namedKey name true).answered
  | .release name => (m.namedKey name false).answered
  | .reset => m.reset.silent
  | .store a value => (m.store a value).silent
  | .load image start => (m.load image start).silent
  | .clearProgram => (m.withMemory m.memory.clear).silent

/-- Refused operations do not end the sequence. -/
def applyAll (m : Machine) : List Operation → Machine
  | [] => m
  | op :: ops => (m.apply op).machine.applyAll ops

end Machine

end Chip8
