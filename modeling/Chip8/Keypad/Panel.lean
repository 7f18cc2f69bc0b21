import Chip8.Keypad
import Chip8.Log.Event

/-!
A keypad with listeners. An edge sets its key first and then tells the listeners
registered when it began, in order; one that fails ends the round, and one that
is added during the round hears the next edge.
-/

namespace Chip8

/-- A listener is told of an edge, and finds the keys as they are then. -/
structure Note (α : Type) where
  listener : α
  index : Fin 16
  pressed : Bool
  keypad : Keypad
  deriving DecidableEq

/-- What a listener does about it: it registers others, and then fails or not. -/
structure Effect (α : Type) where
  attached : List α
  failure : Option String
  deriving DecidableEq, Repr

/-- What listeners do when they are told, which may depend on all that was told before. -/
abbrev Conduct (α : Type) := List (Note α) → Note α → Effect α

structure Panel (α : Type) where
  keypad : Keypad
  listeners : List α
  /-- In the order of telling. -/
  notes : List (Note α)
  deriving DecidableEq

inductive PanelError where
  | fault (f : Fault)
  | listener (text : String)
  deriving DecidableEq, Repr

def PanelError.message : PanelError → String
  | .fault f => f.message
  | .listener text => text

namespace Panel

variable {α : Type}

def initial : Panel α := ⟨.released, [], []⟩

def listen (p : Panel α) (l : α) : Panel α := { p with listeners := p.listeners ++ [l] }

def hear (p : Panel α) (react : Conduct α) (note : Note α) : Panel α × Except PanelError Unit :=
  let effect := react p.notes note
  ({ p with listeners := p.listeners ++ effect.attached, notes := p.notes ++ [note] },
    match effect.failure with
    | none => .ok ()
    | some text => .error (.listener text))

def tell (p : Panel α) (react : Conduct α) (i : Fin 16) (pressed : Bool) :
    List α → Panel α × Except PanelError Unit
  | [] => (p, .ok ())
  | l :: ls =>
    match p.hear react ⟨l, i, pressed, p.keypad⟩ with
    | (p, .ok ()) => p.tell react i pressed ls
    | (p, .error e) => (p, .error e)

def set (p : Panel α) (react : Conduct α) (i : Fin 16) (pressed : Bool) :
    Panel α × Except PanelError Unit × List Event :=
  let (told, result) :=
    { p with keypad := p.keypad.set i pressed }.tell react i pressed p.listeners
  (told, result, [if pressed then .keyDown i else .keyUp i])

def edge (p : Panel α) (react : Conduct α) (i : Int) (pressed : Bool) :
    Panel α × Except PanelError Unit × List Event :=
  match Keypad.index i with
  | .ok i => p.set react i pressed
  | .error f => (p, .error (.fault f), [])

def named (p : Panel α) (react : Conduct α) (name : String) (pressed : Bool) :
    Panel α × Except PanelError Bool × List Event :=
  match Keypad.ofName? name with
  | some i =>
    let (p, result, events) := p.set react i pressed
    (p, result.map fun _ => true, events)
  | none => (p, .ok false, [if pressed then .unmappedPress name else .unmappedRelease name])

def reset (p : Panel α) : Panel α := { p with keypad := .released }

end Panel

/-! ## Listeners of three kinds -/

inductive Reaction where
  | record
  | fail
  | attach
  deriving DecidableEq, Repr

structure Listener where
  reaction : Reaction
  tag : String
  deriving DecidableEq, Repr

abbrev Bench := Panel Listener

def Conduct.standard : Conduct Listener := fun _ note =>
  match note.listener.reaction with
  | .record => ⟨[], none⟩
  | .fail => ⟨[], some ("listener " ++ note.listener.tag)⟩
  | .attach => ⟨[⟨.record, note.listener.tag ++ "+"⟩], none⟩

end Chip8
