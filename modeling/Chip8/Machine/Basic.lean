import Chip8.CallStack
import Chip8.Entropy
import Chip8.Instruction.Standard
import Chip8.Keypad
import Chip8.Memory
import Chip8.Screen

/-!
The machine as one value: registers, memory, call stack, screen, keys, and the
settings it was built with. Building one and resetting one.
-/

namespace Chip8

/-- The index register, program counter and timers are integers of any size,
because a host may set them; programs keep them in range. -/
structure Registers where
  v : Vector UInt8 16
  i : Int
  pc : Int
  dt : Int
  st : Int
  deriving DecidableEq

def Registers.initial : Registers := ⟨Vector.replicate 16 0, 0, programStart, 0, 0⟩

/-- How historical interpreters differ: shifts read `Vy`, jumps with offset read
`Vx`, block transfers advance `I`, logic instructions clear `VF`. -/
structure Dialect where
  shiftReadsVy : Bool
  jumpReadsVx : Bool
  transferAdvancesIndex : Bool
  logicClearsFlag : Bool
  deriving DecidableEq, Repr

def Dialect.modern : Dialect := ⟨false, false, false, false⟩

structure Machine where
  regs : Registers
  memory : Memory
  stack : CallStack
  screen : Screen 64 32
  keypad : Keypad
  /-- Whether an instruction waits for a key, and the register that will get it. -/
  awaiting : Bool
  keyRegister : Fin 16
  /-- Instructions executed. -/
  count : Nat
  entropy : Entropy
  dialect : Dialect
  /-- Stop at words that match no instruction, instead of skipping them. -/
  strict : Bool
  table : Table
  program : Array UInt8

/-- What an operation leaves behind: the machine, also after a fault, its answer
and the events on the way. -/
structure Outcome (α : Type) where
  machine : Machine
  result : Except Fault α
  events : List Event

inductive CreateError where
  | programTooLarge (length : Nat)
  | fault (f : Fault)
  deriving DecidableEq, Repr

def CreateError.message : CreateError → String
  | .programTooLarge length =>
    "program is " ++ Text.decimal 0 length ++ " bytes; at most " ++
      Text.decimal 0 programCapacity ++ " bytes fit"
  | .fault f => f.message

namespace Machine

def powerOn (memory : Memory) (program : Array UInt8) (dialect : Dialect) (strict : Bool)
    (entropy : Entropy) : Machine :=
  { regs := .initial, memory, stack := .empty, screen := .blank, keypad := .released
    awaiting := false, keyRegister := 0, count := 0
    entropy, dialect, strict, table := Standard.table, program }

/-- A machine with `program` at the program start. -/
def create (program : Array UInt8) (dialect : Dialect) (strict : Bool) (entropy : Entropy) :
    Except CreateError Machine :=
  if programCapacity < program.size then .error (.programTooLarge program.size)
  else match Memory.initial.load program programStart with
    | .ok memory => .ok (powerOn memory program dialect strict entropy)
    | .error f => .error (.fault f)

/-- The image is loaded again; settings and the position of the random source stay. -/
def reset (m : Machine) : Outcome Unit :=
  match m.memory.clear with
  | .error f => ⟨m, .error f, []⟩
  | .ok cleared =>
    match cleared.load m.program programStart with
    | .error f => ⟨{ m with memory := cleared }, .error f, []⟩
    | .ok memory =>
      ⟨{ m with
          regs := .initial, memory, stack := m.stack.clear, screen := .blank, keypad := .released
          awaiting := false, keyRegister := 0, count := 0 }, .ok (), []⟩

end Machine

end Chip8
