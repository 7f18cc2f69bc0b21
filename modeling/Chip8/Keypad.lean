import Chip8.Fault
import Chip8.Text.Lower

/-!
Sixteen keys, and the layout of the host keys on them:

    1 2 3 4      1 2 3 C
    q w e r      4 5 6 D
    a s d f      7 8 9 E
    z x c v      A 0 B F
-/

namespace Chip8

structure Keypad where
  keys : Vector Bool 16
  deriving DecidableEq

namespace Keypad

def layout : List (String × Fin 16) :=
  [("1", 0x1), ("2", 0x2), ("3", 0x3), ("4", 0xC),
   ("q", 0x4), ("w", 0x5), ("e", 0x6), ("r", 0xD),
   ("a", 0x7), ("s", 0x8), ("d", 0x9), ("f", 0xE),
   ("z", 0xA), ("x", 0x0), ("c", 0xB), ("v", 0xF)]

/-- The key that a host key stands for, in either case. -/
def ofName? (name : String) : Option (Fin 16) :=
  let lowered := Text.lower name
  (layout.find? (·.1 = lowered)).map (·.2)

def index (i : Int) : Except Fault (Fin 16) :=
  if h : 0 ≤ i ∧ i < 16 then .ok ⟨i.toNat, by omega⟩ else .error (.keyIndex i)

def released : Keypad := ⟨Vector.replicate 16 false⟩

def set (k : Keypad) (i : Fin 16) (pressed : Bool) : Keypad :=
  ⟨Vector.ofFn fun j => if j = i then pressed else k.keys.get j⟩

/-- A number that is no key counts as released. -/
def isPressed (k : Keypad) (i : Int) : Bool :=
  match index i with
  | .ok i => k.keys.get i
  | .error _ => false

end Keypad

end Chip8
