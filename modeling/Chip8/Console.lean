import Chip8.Monitor

/-!
A monitor with its log: commands are carried out, and the events of the
categories that are on are printed. The categories decide about the text alone.
-/

namespace Chip8

structure Console where
  categories : Categories
  monitor : Monitor
  /-- The text printed so far. -/
  output : String

namespace Console

def start (c : Categories) (m : Machine) : Console := ⟨c, .of m, ""⟩

def print (k : Console) (events : List Event) : Console :=
  { k with output := k.output ++ k.categories.print events }

def perform (k : Console) (c : Command) : Console × Except MonitorError Reply :=
  let r := k.monitor.perform c
  ({ k with monitor := r.monitor }.print r.events, r.reply)

/-- The first refused command ends the sequence. -/
def performAll (k : Console) : List Command → Console × Except MonitorError Unit
  | [] => (k, .ok ())
  | c :: cs =>
    match k.perform c with
    | (k, .error e) => (k, .error e)
    | (k, .ok _) => k.performAll cs

end Console

end Chip8
