import Chip8.Machine.Operation
import Chip8.Text.Message

/-!
Work on a machine that writes its log as it goes. Where there is something to say, the category
is asked for; if it is on, the line is made there and then and printed, and only then the work
goes on. A line that cannot be made or is not taken ends the work where it stands. Whether a line
can always be made, and what such work has to do with the events of `Outcome`, is the matter of
`Logging`.
-/

namespace Chip8

/-- Why work ends early: the machine refuses, or a line of its log cannot be made or is not
taken. -/
inductive Stop where
  | fault (f : Fault)
  | template (e : TemplateError)
  | message (e : Text.MessageError)
  | output (line : String)
  deriving DecidableEq

/-- What a log is printed on: the memory there is to make its lines, and which lines are taken. -/
structure Printer where
  room : Room
  takes : String → Bool

/-- The assumption on the output of a program: it takes every line. -/
def Printer.TakesAll (p : Printer) : Prop := ∀ line, p.takes line = true

/-- What work leaves: the machine, also behind a stop, the answer and the text that was
printed. -/
structure Logged (α : Type) where
  machine : Machine
  result : Except Stop α
  output : String

/-- Work under the categories that are on, with a printer for its log. -/
def Work (α : Type) := Categories → Printer → Machine → Logged α

namespace Work

variable {α : Type}

instance : Monad Work where
  pure a _ _ m := ⟨m, .ok a, ""⟩
  bind w next c p m :=
    let l := w c p m
    match l.result with
    | .error e => ⟨l.machine, .error e, l.output⟩
    | .ok a =>
      let rest := next a c p l.machine
      ⟨rest.machine, rest.result, l.output ++ rest.output⟩

def get : Work Machine := fun _ _ m => ⟨m, .ok m, ""⟩

def room : Work Room := fun _ p m => ⟨m, .ok p.room, ""⟩

def modify (change : Machine → Machine) : Work Unit := fun _ _ m => ⟨change m, .ok (), ""⟩

def stop (e : Stop) : Work α := fun _ _ m => ⟨m, .error e, ""⟩

/-- What has nothing to say. -/
def quiet (o : Machine → Outcome α) : Work α := fun _ _ m =>
  ⟨(o m).machine, (o m).result.mapError .fault, ""⟩

def whenOn (category : String) (w : Work Unit) : Work Unit := fun c p m =>
  if c.enabled category then w c p m else ⟨m, .ok (), ""⟩

def print (line : String) : Work Unit := fun _ p m =>
  if p.takes line then ⟨m, .ok (), line⟩ else ⟨m, .error (.output line), ""⟩

/-- Fills the template and prints the line. -/
def log (category template : String) (args : List Text.Argument) : Work Unit :=
  whenOn category do
    match Text.message (← room) template args with
    | .ok text => print (logLine category text)
    | .error e => stop (.message e)

/-- Faults of the call stack put the program counter back to `pc`. -/
def undoing (pc : Int) (w : Work α) : Work α := fun c p m =>
  let l := w c p m
  match l.result with
  | .error (.fault f) => ⟨if f.isStack then l.machine.jump pc else l.machine, l.result, l.output⟩
  | _ => l

/-! ## Memory -/

def store (a value : Int) : Work Unit := do
  let m ← get
  let cell := Memory.cell a
  if cell.val < m.memory.guard then
    whenOn "memory" <| log "memory" "ignored write addr=%03x val=%02x"
      [.whole cell.val, .whole (UInt8.ofInt value).toNat]
  else modify fun m => { m with memory := m.memory.store a value }

def storeAll (a : Int) : List UInt8 → Work Unit
  | [] => pure ()
  | b :: bs => do
    store a b.toNat
    storeAll (a + 1) bs

/-! ## Instructions -/

def drawRandom (w : Word) : Work Bool := do
  let m ← get
  modify fun m => { m with entropy := m.entropy.next }
  match m.entropy.current with
  | .value n => modify (·.setV w.x (UInt8.ofInt n &&& w.kk))
  | .unavailable reason =>
    whenOn "cpu" <| log "cpu" "random source failed: %s" [.text reason]
    modify (·.setV w.x 0)
  | .broken reason => stop (.fault (.noEntropy reason))
  return false

def keyHeld (w : Word) : Work Bool := do
  let m ← get
  if 15 < (m.vx w).toNat then
    whenOn "input" <| log "input" "key index %02X out of range treated as released"
      [.whole (m.vx w).toNat]
  return m.keyHeld w

def execute (op : Op) (w : Word) : Work Bool := do
  let m ← get
  match op with
  | .sys =>
    whenOn "cpu" <| log "cpu" "SYS #%03X ignored" [.whole w.nnn]
    return false
  | .rnd => drawRandom w
  | .skp =>
    let held ← keyHeld w
    modify (·.skipIf held)
    return false
  | .sknp =>
    let held ← keyHeld w
    modify (·.skipIf !held)
    return false
  | .ldBVx =>
    storeAll m.regs.i (Machine.decimalDigits (m.vx w))
    return false
  | .ldMemVx =>
    storeAll m.regs.i (m.registersTo w)
    modify (·.afterTransfer w)
    return false
  | op => quiet (·.execute op w)

def skipUnknown : Work Bool := do
  let m ← get
  if m.strict then stop (.fault (.illegalOpcode m.regs.pc m.fetch))
  whenOn "cpu" <| log "cpu" "unknown opcode %04X at %03X ignored"
    [.whole m.fetch.val, .whole m.regs.pc]
  modify fun m => m.advance.counted
  return false

def perform (i : Instruction) : Work Bool := do
  let m ← get
  modify (·.advance)
  let drew ← undoing m.regs.pc (execute i.op m.fetch)
  modify (·.counted)
  return drew

/-- The text of the word is looked up again, and only for the log. -/
def logFetched : Work Unit := whenOn "cpu" do
  let m ← get
  match m.table.formatIn (← room) m.fetch with
  | .ok text => log "cpu" "%03X %04X %s" [.whole m.regs.pc, .whole m.fetch.val, .text text]
  | .error e => stop (.template e)

def step : Work Bool := do
  let m ← get
  if m.awaiting then return false
  logFetched
  match m.table.lookup m.fetch with
  | none => skipUnknown
  | some i => perform i

def run : Nat → Work Bool
  | 0 => return false
  | n + 1 => do
    let m ← get
    if m.awaiting then return false
    let drew ← step
    let more ← run n
    return drew || more

/-! ## Keys -/

def keyEdge (i : Int) (pressed : Bool) : Work Unit := do
  let m ← get
  if pressed && m.awaiting then
    modify fun m => { m.setV m.keyRegister (UInt8.ofInt i) with awaiting := false }
    whenOn "input" <| log "input" "key wait resolved V%X=%X" [.whole m.keyRegister.val, .whole i]

def setKey (i : Fin 16) (pressed : Bool) : Work Unit := do
  modify fun m => { m with keypad := m.keypad.set i pressed }
  whenOn "input" <| log "input" (if pressed then "key_down=%X" else "key_up=%X") [.whole i.val]
  keyEdge i.val pressed

def key (i : Int) (pressed : Bool) : Work Unit :=
  match Keypad.index i with
  | .ok i => setKey i pressed
  | .error f => stop (.fault f)

def namedKey (name : String) (pressed : Bool) : Work Bool :=
  match Keypad.ofName? name with
  | some i => do
    setKey i pressed
    return true
  | none => do
    whenOn "input" <| log "input" (if pressed then "unmapped_press=%s" else "unmapped_release=%s")
      [.text name]
    return false

/-! ## Operations -/

def silent (w : Work Unit) : Work Answer := do
  w
  return none

def answered (w : Work Bool) : Work Answer := do
  let answer ← w
  return some answer

def apply : Operation → Work Answer
  | .step => step.answered
  | .run n => (run n.toNat).answered
  | .keyDown i => (key i true).silent
  | .keyUp i => (key i false).silent
  | .press name => (namedKey name true).answered
  | .release name => (namedKey name false).answered
  | .store a value => (store a value).silent
  | op => quiet (·.apply op)

/-- What every one of a sequence of operations leaves; a stop does not end the sequence. -/
def applyAll (c : Categories) (p : Printer) (m : Machine) : List Operation → List (Logged Answer)
  | [] => []
  | op :: ops => apply op c p m :: applyAll c p (apply op c p m).machine ops

end Work

end Chip8
