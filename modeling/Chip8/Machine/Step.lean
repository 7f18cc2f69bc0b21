import Chip8.Machine.Execute

/-!
Stepping and running, timers, and key edges.
-/

namespace Chip8

namespace Machine

/-- The word under the program counter. -/
def fetch (m : Machine) : Word := m.memory.readWord m.regs.pc

def counted (m : Machine) : Machine := { m with count := m.count + 1 }

/-- A word that matches no instruction stops a strict machine; another one skips it. -/
def skipUnknown (m : Machine) : Outcome Bool :=
  if m.strict then ⟨m, .error (.illegalOpcode m.regs.pc m.fetch), []⟩
  else ⟨m.advance.counted, .ok false, [.unknownIgnored m.fetch m.regs.pc]⟩

/-- Faults of the call stack put the program counter back on the instruction. -/
def perform (m : Machine) (i : Instruction) : Outcome Bool :=
  let o := m.advance.execute i.op m.fetch
  match o.result with
  | .ok drew => ⟨o.machine.counted, .ok drew, o.events⟩
  | .error f => ⟨if f.isStack then o.machine.jump m.regs.pc else o.machine, .error f, o.events⟩

/-- One instruction, unless a key is awaited; says whether it drew. -/
def step (m : Machine) : Outcome Bool :=
  if m.awaiting then done m
  else
    let i := m.table.lookup m.fetch
    let o := match i with
      | none => m.skipUnknown
      | some i => m.perform i
    { o with events := .fetched m.regs.pc m.fetch i :: o.events }

/-- At most `n` instructions; says whether any of them drew. -/
def run (m : Machine) : Nat → Outcome Bool
  | 0 => done m
  | n + 1 =>
    if m.awaiting then done m
    else
      let o := m.step
      match o.result with
      | .error f => ⟨o.machine, .error f, o.events⟩
      | .ok drew =>
        let rest := o.machine.run n
        ⟨rest.machine, rest.result.map (drew || ·), o.events ++ rest.events⟩

def countDown (t : Int) : Int := if 0 < t then t - 1 else t

def tick (m : Machine) : Machine :=
  { m with regs.dt := countDown m.regs.dt, regs.st := countDown m.regs.st }

def ticks (m : Machine) : Nat → Machine
  | 0 => m
  | n + 1 => m.tick.ticks n

/-- Gives the key to the instruction that waits for one. -/
def keyEdge (m : Machine) (i : Int) (pressed : Bool) : Outcome Unit :=
  if pressed && m.awaiting then
    ⟨{ m.setV m.keyRegister (UInt8.ofInt i) with awaiting := false }, .ok (),
      [.keyWaitResolved m.keyRegister i]⟩
  else ⟨m, .ok (), []⟩

def setKey (m : Machine) (i : Fin 16) (pressed : Bool) : Outcome Unit :=
  let o := { m with keypad := m.keypad.set i pressed }.keyEdge i.val pressed
  { o with events := (if pressed then .keyDown i else .keyUp i) :: o.events }

def key (m : Machine) (i : Int) (pressed : Bool) : Outcome Unit :=
  match Keypad.index i with
  | .ok i => m.setKey i pressed
  | .error f => ⟨m, .error f, []⟩

def keyDown (m : Machine) (i : Int) : Outcome Unit := m.key i true

def keyUp (m : Machine) (i : Int) : Outcome Unit := m.key i false

/-- The key that a host key stands for; says whether there is one. -/
def namedKey (m : Machine) (name : String) (pressed : Bool) : Outcome Bool :=
  match Keypad.ofName? name with
  | some i =>
    let o := m.setKey i pressed
    ⟨o.machine, o.result.map fun _ => true, o.events⟩
  | none => ⟨m, .ok false, [if pressed then .unmappedPress name else .unmappedRelease name]⟩

end Machine

end Chip8
