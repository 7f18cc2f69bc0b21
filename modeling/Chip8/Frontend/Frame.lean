import Chip8.Frontend.Basic

/-!
The work of one frame: how many instructions and timer ticks are due, running
them with or without a trace, and keys.
-/

namespace Chip8

namespace Frontend

/-- What is due now at `hz` per second, and the fraction that stays over. A sum
without a whole part stays over as it is. -/
def due (budget : Float) (hz rate : Quantity) : Float × Except NumberError Nat :=
  match hz.divide rate with
  | .error e => (budget, .error e)
  | .ok share =>
    let total := budget + share
    match Number.truncate total with
    | .error e => (total, .error e)
    | .ok n => (total - Float.ofInt n, .ok n.toNat)

def stepsDue (f : Frontend) : Frontend × Except NumberError Nat :=
  let (stepBudget, n) := due f.stepBudget f.config.clockHz f.config.frameRate
  ({ f with stepBudget }, n)

def ticksDue (f : Frontend) : Frontend × Except NumberError Nat :=
  let (timerBudget, n) := due f.timerBudget f.config.timerHz f.config.frameRate
  ({ f with timerBudget }, n)

/-- The bits of what stays over. The quotient of two infinities is the one value that is
no number and has a sign. -/
def budgetBits (budget : Float) (hz rate : Quantity) : Nat :=
  if budget.isNaN && hz.isInfinite && rate.isInfinite then 0xfff8000000000000
  else budget.toBits.toNat

def stepBudgetBits (f : Frontend) : Nat :=
  budgetBits f.stepBudget f.config.clockHz f.config.frameRate

def timerBudgetBits (f : Frontend) : Nat :=
  budgetBits f.timerBudget f.config.timerHz f.config.frameRate

/-- The entry of a step from `before` to `after`. -/
def entry (before after : Machine) (drew : Bool) : Trace.Entry :=
  Trace.Entry.of before.regs.pc before.regs.i before.regs.dt before.regs.st
    (before.regs.v.toList.map fun b => (b.toNat : Int)) (some before.fetch.val) after.stack.depth
    after.awaiting drew (Standard.text before.fetch) ""

def remember (f : Frontend) (before : Machine) (drew : Bool) : Frontend :=
  { f with trace := f.trace.map (·.record (entry before f.machine drew)) }

/-- At most `n` instructions; says whether any of them drew. -/
def stepMachine (f : Frontend) : Nat → Frontend × Except Fault Bool
  | 0 => (f, .ok false)
  | n + 1 =>
    if f.machine.awaiting then (f, .ok false)
    else
      let o := f.machine.step
      let g := f.adopt o
      match o.result with
      | .error e => (g, .error e)
      | .ok drew =>
        let (g, rest) := (g.remember f.machine drew).stepMachine n
        (g, rest.map (drew || ·))

def dumpLimit : Int := 32

def sayTrace (f : Frontend) : Frontend :=
  match f.trace with
  | some t => f.say (t.dump f.categories "trace" (some dumpLimit))
  | none => f

/-- The instructions of one frame. A fault of the processor stops the frontend
and prints the trace. -/
def stepFrame (f : Frontend) : Frontend × Except FrontendError Bool :=
  match f.stepsDue with
  | (f, .error e) => (f, .error (.number e))
  | (f, .ok n) =>
    match f.stepMachine n with
    | (f, .ok drew) => (f, .ok drew)
    | (f, .error e) =>
      if e.isProcessor then
        ({ f with running := false }.sayTrace, .error (.stopped f.machine.regs.pc e))
      else (f, .error (.fault e))

/-- The timer ticks of one frame. -/
def tickFrame (f : Frontend) : Frontend × Except FrontendError Nat :=
  match f.ticksDue with
  | (f, .error e) => (f, .error (.number e))
  | (f, .ok n) => ({ f with machine := f.machine.ticks n }, .ok n)

def key (f : Frontend) (name : String) (pressed : Bool) : Frontend × Except Fault Bool :=
  let o := f.machine.namedKey name pressed
  ((f.log [.keyEvent name pressed]).adopt o, o.result)

end Frontend

end Chip8
