/-!
Instruction words. A word is 16 bits; its operand fields are the primary group,
an address `nnn`, a byte `kk`, two register numbers `x` and `y`, and a nibble `n`.
-/

namespace Chip8

-- Zero is that of the numerals, whatever algebra a module has at hand.
attribute [local instance (high)] Zero.ofOfNat0

/-- Numerals are words, and numbers of registers and of keys. -/
instance (priority := high) neZero_words : NeZero 0x10000 := ⟨by decide⟩
instance (priority := high) neZero_nibbles : NeZero 0x10 := ⟨by decide⟩

abbrev Word := Fin 0x10000

namespace Word

/-- The low 16 bits of any integer. -/
def ofInt (n : Int) : Word := ⟨(n % 0x10000).toNat, by omega⟩

def ofBytes (high low : UInt8) : Word :=
  ⟨high.toNat * 0x100 + low.toNat, by
    have := high.toNat_lt
    have := low.toNat_lt
    omega⟩

def high (w : Word) : UInt8 := UInt8.ofNat (w.val / 0x100)

def group (w : Word) : Fin 16 := ⟨w.val / 0x1000, by omega⟩

def nnn (w : Word) : Nat := w.val % 0x1000

def kk (w : Word) : UInt8 := UInt8.ofNat (w.val % 0x100)

def x (w : Word) : Fin 16 := ⟨w.val / 0x100 % 0x10, by omega⟩

def y (w : Word) : Fin 16 := ⟨w.val / 0x10 % 0x10, by omega⟩

def n (w : Word) : Nat := w.val % 0x10

/-- Bits of `w` under `mask`. -/
def masked (w mask : Word) : Nat := w.val &&& mask.val

end Word

end Chip8
