import Chip8.Frontend.Loop
import Chip8.Monitor

/-!
A frontend on the bench: its parts called one by one, beside the commands of the
monitor on its machine.
-/

namespace Chip8

inductive DeskCommand where
  | machine (c : Command)
  | frame
  | timers
  | budget
  | key (name : String) (pressed : Bool)
  | shell (typed : List Typed)
  | showCpu
  | showTrace (limit : Option Int)
  | showMemory (argument : String)

inductive DeskReply where
  | machine (r : Reply)
  | nothing
  | truth (b : Bool)
  | whole (n : Int)
  | shell (unread : Nat) (calls : List HostCall)

inductive DeskError where
  | monitor (e : MonitorError)
  | frontend (e : FrontendError)
  deriving DecidableEq, Repr

structure Desk where
  frontend : Frontend
  saved : List Registers

namespace Desk

def fromFrontend {α : Type} (d : Desk) (r : Frontend × Except FrontendError α)
    (reply : α → DeskReply) : Desk × Except DeskError DeskReply :=
  ({ d with frontend := r.1 },
    match r.2 with
    | .ok a => .ok (reply a)
    | .error e => .error (.frontend e))

def silent (d : Desk) (f : Frontend) : Desk × Except DeskError DeskReply :=
  ({ d with frontend := f }, .ok .nothing)

def perform (d : Desk) (c : DeskCommand) : Desk × Except DeskError DeskReply :=
  let f := d.frontend
  match c with
  | .machine c =>
    let r := (Monitor.mk f.machine d.saved).perform c
    (⟨{ f with machine := r.monitor.machine }.log r.events, r.monitor.saved⟩,
      match r.reply with
      | .ok reply => .ok (.machine reply)
      | .error e => .error (.monitor e))
  | .frame => d.fromFrontend f.stepFrame .truth
  | .timers => d.fromFrontend f.tickFrame fun n => .whole n
  | .budget =>
    match f.stepsDue with
    | (f, .ok n) => ({ d with frontend := f }, .ok (.whole n))
    | (f, .error e) => ({ d with frontend := f }, .error (.frontend (.number e)))
  | .key name pressed =>
    match f.key name pressed with
    | (f, .ok b) => ({ d with frontend := f }, .ok (.truth b))
    | (f, .error e) => ({ d with frontend := f }, .error (.frontend (.fault e)))
  | .shell typed =>
    let before := f.host
    let f := { f with host := { f.host with typed } }.shell
    ({ d with frontend := f }, .ok (.shell f.host.typed.length (f.host.callsSince before)))
  | .showCpu => d.silent f.sayCpu
  | .showTrace limit => d.silent (f.sayLatest limit)
  | .showMemory argument => d.fromFrontend (f.sayMemory argument) fun () => .nothing

end Desk

end Chip8
