import Chip8.Machine.Operation
import Chip8.Machine.Report

/-!
A monitor: a machine on the bench, driven by commands that also reach into its
parts, with register files put aside to be taken up again.
-/

namespace Chip8

inductive RegisterName where
  | v (k : Fin 16)
  | i
  | pc
  | dt
  | st
  deriving DecidableEq, Repr

inductive Command where
  | op (o : Operation)
  | steps (n : Int)
  | ticks (n : Int)
  | set (r : RegisterName) (value : Int)
  | poke (a : Int) (bytes : List UInt8)
  | push (a : Int)
  | pop
  | edge (i : Int) (pressed : Bool)
  | save
  | restore
  | strict (on : Bool)
  | draw (x y : Int) (lines : List Int)
  | timers
  | describe
  | dump (start length : Int)
  | text (on off : String)
  deriving DecidableEq

inductive Reply where
  | nothing
  | truth (b : Bool)
  | truths (bs : List Bool)
  | whole (n : Int)
  | timers (dt st : Int) (awaiting : Bool)
  | lines (ls : List String)
  | text (s : String)
  deriving DecidableEq, Repr

inductive MonitorError where
  | fault (f : Fault)
  | nothingSaved
  deriving DecidableEq, Repr

def MonitorError.message : MonitorError → String
  | .fault f => f.message
  | .nothingSaved => "pop from empty list"

structure Monitor where
  machine : Machine
  saved : List Registers

/-- The monitor after a command, its reply and the events on the way. -/
structure Response where
  monitor : Monitor
  reply : Except MonitorError Reply
  events : List Event

namespace Machine

def setRegister (m : Machine) (r : RegisterName) (value : Int) : Except Fault Machine :=
  match r with
  | .v k =>
    if 0 ≤ value ∧ value < 0x100 then .ok (m.setV k (UInt8.ofInt value)) else .error .byteRange
  | .i => .ok { m with regs.i := value }
  | .pc => .ok { m with regs.pc := value }
  | .dt => .ok { m with regs.dt := value }
  | .st => .ok { m with regs.st := value }

/-- The answers of `n` steps; the first fault ends them. -/
def steps (m : Machine) : Nat → Outcome (List Bool)
  | 0 => ⟨m, .ok [], []⟩
  | n + 1 =>
    let o := m.step
    match o.result with
    | .error f => ⟨o.machine, .error f, o.events⟩
    | .ok drew =>
      let rest := o.machine.steps n
      ⟨rest.machine, rest.result.map (drew :: ·), o.events ++ rest.events⟩

end Machine

namespace Monitor

def of (m : Machine) : Monitor := ⟨m, []⟩

def respond {α : Type} (b : Monitor) (o : Outcome α) (reply : α → Reply) : Response :=
  ⟨{ b with machine := o.machine },
    match o.result with
    | .ok a => .ok (reply a)
    | .error f => .error (.fault f),
    o.events⟩

def change (b : Monitor) (m : Except Fault Machine) : Response :=
  match m with
  | .ok machine => ⟨{ b with machine }, .ok .nothing, []⟩
  | .error f => ⟨b, .error (.fault f), []⟩

def tell (b : Monitor) (r : Reply) : Response := ⟨b, .ok r, []⟩

/-- Ticks that are none at all are told by an empty list. -/
def perform (b : Monitor) (c : Command) : Response :=
  let m := b.machine
  match c with
  | .op o => b.respond (m.apply o) fun a => a.elim .nothing .truth
  | .steps n => b.respond (m.steps n.toNat) .truths
  | .ticks n =>
    ⟨{ b with machine := m.ticks n.toNat }, .ok (if n ≤ 0 then .truths [] else .nothing), []⟩
  | .set r value => b.change (m.setRegister r value)
  | .poke a bytes =>
    let events := m.memory.storeAllEvents a bytes
    b.respond ⟨{ m with memory := m.memory.storeAll a bytes }, .ok (), events⟩ fun _ => .nothing
  | .push a => b.change ((m.stack.push a).map fun stack => { m with stack })
  | .pop =>
    match m.stack.pop with
    | .ok (a, stack) => ⟨{ b with machine := { m with stack } }, .ok (.whole a.val), []⟩
    | .error f => ⟨b, .error (.fault f), []⟩
  | .edge i pressed => b.respond (m.keyEdge i pressed) fun _ => .nothing
  | .save => ⟨{ b with saved := m.regs :: b.saved }, .ok .nothing, []⟩
  | .restore =>
    match b.saved with
    | regs :: saved => ⟨⟨{ m with regs }, saved⟩, .ok .nothing, []⟩
    | [] => ⟨b, .error .nothingSaved, []⟩
  | .strict on => b.change (.ok { m with strict := on })
  | .draw x y lines => b.change (.ok { m with screen := (m.screen.draw x y lines).1 })
  | .timers => b.tell (.timers m.regs.dt m.regs.st m.awaiting)
  | .describe => b.tell (.lines m.describe)
  | .dump start length => b.tell (.lines (m.dump start length))
  | .text on off => b.tell (.text (m.screen.text on off))

end Monitor

end Chip8
