import Chip8.Machine.Basic

/-!
What each instruction does. The program counter already stands behind the word;
flags are written after results, so they win where `Vx` is `VF`.
-/

namespace Chip8

namespace Machine

def done (m : Machine) : Outcome Bool := ⟨m, .ok false, []⟩

def vx (m : Machine) (w : Word) : UInt8 := m.regs.v.get w.x

def vy (m : Machine) (w : Word) : UInt8 := m.regs.v.get w.y

def setV (m : Machine) (k : Fin 16) (b : UInt8) : Machine :=
  { m with regs.v := m.regs.v.set k b k.isLt }

def setFlag (m : Machine) (b : Bool) : Machine := m.setV 15 (if b then 1 else 0)

def advance (m : Machine) : Machine := { m with regs.pc := (m.regs.pc + 2) % 0x1000 }

def skipIf (m : Machine) (c : Bool) : Machine := if c then m.advance else m

def jump (m : Machine) (a : Int) : Machine := { m with regs.pc := a }

def logicFlag (m : Machine) : Machine :=
  if m.dialect.logicClearsFlag then m.setFlag false else m

def shiftSource (m : Machine) (w : Word) : UInt8 :=
  if m.dialect.shiftReadsVy then m.vy w else m.vx w

/-- `I` behind the registers moved, where the dialect says so. -/
def afterTransfer (m : Machine) (w : Word) : Machine :=
  if m.dialect.transferAdvancesIndex then
    { m with regs.i := (m.regs.i + w.x.val + 1) % 0x10000 }
  else m

def call (m : Machine) (w : Word) : Outcome Bool :=
  match m.stack.push m.regs.pc with
  | .ok stack => done { m with stack, regs.pc := w.nnn }
  | .error f => ⟨m, .error f, []⟩

def ret (m : Machine) : Outcome Bool :=
  match m.stack.pop with
  | .ok (a, stack) => done { m with stack, regs.pc := a.val }
  | .error f => ⟨m, .error f, []⟩

/-- The registers up to `Vx` taken from memory at `I`. -/
def registersFrom (m : Machine) (w : Word) : Vector UInt8 16 :=
  Vector.ofFn fun k => if k ≤ w.x then m.memory.read (m.regs.i + k.val) else m.regs.v.get k

def registersTo (m : Machine) (w : Word) : List UInt8 := m.regs.v.toList.take (w.x.val + 1)

def storeAtIndex (m : Machine) (bytes : List UInt8) : Outcome Bool :=
  ⟨{ m with memory := m.memory.storeAll m.regs.i bytes }, .ok false,
    m.memory.storeAllEvents m.regs.i bytes⟩

def drawSprite (m : Machine) (w : Word) : Outcome Bool :=
  let lines := (m.memory.block m.regs.i w.n).map fun b => (b.toNat : Int)
  let drawn := m.screen.draw (m.vx w).toNat (m.vy w).toNat lines
  ⟨{ m with screen := drawn.1 }.setFlag drawn.2, .ok true, []⟩

def drawRandom (m : Machine) (w : Word) : Outcome Bool :=
  let next := { m with entropy := m.entropy.next }
  match m.entropy.current with
  | .value n => done (next.setV w.x (UInt8.ofInt n &&& w.kk))
  | .unavailable reason => ⟨next.setV w.x 0, .ok false, [.randomFailed reason]⟩
  | .broken reason => ⟨next, .error (.noEntropy reason), []⟩

def keyHeld (m : Machine) (w : Word) : Bool := m.keypad.isPressed (m.vx w).toNat

def keyHeldEvents (m : Machine) (w : Word) : List Event :=
  if 15 < (m.vx w).toNat then [.keyOutOfRange (m.vx w)] else []

/-- A timer set by the host beyond a byte cannot be read into a register. -/
def readDelay (m : Machine) (w : Word) : Outcome Bool :=
  if 0 ≤ m.regs.dt ∧ m.regs.dt < 0x100 then done (m.setV w.x (UInt8.ofInt m.regs.dt))
  else ⟨m, .error .byteRange, []⟩

def decimalDigits (b : UInt8) : List UInt8 := [b / 100, b / 10 % 10, b % 10]

def execute (m : Machine) (op : Op) (w : Word) : Outcome Bool :=
  let vx := m.vx w
  let vy := m.vy w
  match op with
  | .cls => done { m with screen := .blank }
  | .ret => m.ret
  | .sys => ⟨m, .ok false, [.nativeIgnored w.nnn]⟩
  | .jp => done (m.jump w.nnn)
  | .call => m.call w
  | .seVxKk => done (m.skipIf (vx = w.kk))
  | .sneVxKk => done (m.skipIf (vx ≠ w.kk))
  | .seVxVy => done (m.skipIf (vx = vy))
  | .sneVxVy => done (m.skipIf (vx ≠ vy))
  | .ldVxKk => done (m.setV w.x w.kk)
  | .addVxKk => done (m.setV w.x (vx + w.kk))
  | .ldVxVy => done (m.setV w.x vy)
  | .or => done (m.setV w.x (vx ||| vy)).logicFlag
  | .and => done (m.setV w.x (vx &&& vy)).logicFlag
  | .xor => done (m.setV w.x (vx ^^^ vy)).logicFlag
  | .addVxVy => done ((m.setV w.x (vx + vy)).setFlag (0xFF < vx.toNat + vy.toNat))
  | .sub => done ((m.setV w.x (vx - vy)).setFlag (vy ≤ vx))
  | .subn => done ((m.setV w.x (vy - vx)).setFlag (vx ≤ vy))
  | .shr =>
    let source := m.shiftSource w
    done ((m.setV w.x (source / 2)).setFlag (source % 2 = 1))
  | .shl =>
    let source := m.shiftSource w
    done ((m.setV w.x (source + source)).setFlag (0x80 ≤ source))
  | .ldI => done { m with regs.i := w.nnn }
  | .jpV0 =>
    let offset := m.regs.v.get (if m.dialect.jumpReadsVx then w.x else 0)
    done (m.jump ((offset.toNat + w.nnn) % 0x1000))
  | .rnd => m.drawRandom w
  | .drw => m.drawSprite w
  | .skp => ⟨m.skipIf (m.keyHeld w), .ok false, m.keyHeldEvents w⟩
  | .sknp => ⟨m.skipIf (!m.keyHeld w), .ok false, m.keyHeldEvents w⟩
  | .ldVxDt => m.readDelay w
  | .ldVxK => done { m with awaiting := true, keyRegister := w.x }
  | .ldDtVx => done { m with regs.dt := vx.toNat }
  | .ldStVx => done { m with regs.st := vx.toNat }
  | .addIVx => done { m with regs.i := (m.regs.i + vx.toNat) % 0x10000 }
  | .ldFVx => done { m with regs.i := glyphAddress vx.toNat }
  | .ldBVx => m.storeAtIndex (decimalDigits vx)
  | .ldMemVx =>
    let stored := m.storeAtIndex (m.registersTo w)
    { stored with machine := stored.machine.afterTransfer w }
  | .ldVxMem => done ({ m with regs.v := m.registersFrom w }.afterTransfer w)

end Machine

end Chip8
