/-!
The closed set of instructions, in the order of their numbers.
-/

namespace Chip8

inductive Op where
  | cls | ret | sys | jp | call
  | seVxKk | sneVxKk | seVxVy | ldVxKk | addVxKk
  | ldVxVy | or | and | xor | addVxVy | sub | shr | subn | shl
  | sneVxVy | ldI | jpV0 | rnd | drw | skp | sknp
  | ldVxDt | ldVxK | ldDtVx | ldStVx | addIVx | ldFVx | ldBVx | ldMemVx | ldVxMem
  deriving DecidableEq, Repr

namespace Op

def name : Op → String
  | cls => "CLS" | ret => "RET" | sys => "SYS" | jp => "JP" | call => "CALL"
  | seVxKk => "SE_VX_KK" | sneVxKk => "SNE_VX_KK" | seVxVy => "SE_VX_VY"
  | ldVxKk => "LD_VX_KK" | addVxKk => "ADD_VX_KK"
  | ldVxVy => "LD_VX_VY" | or => "OR" | and => "AND" | xor => "XOR" | addVxVy => "ADD_VX_VY"
  | sub => "SUB" | shr => "SHR" | subn => "SUBN" | shl => "SHL"
  | sneVxVy => "SNE_VX_VY" | ldI => "LD_I" | jpV0 => "JP_V0" | rnd => "RND" | drw => "DRW"
  | skp => "SKP" | sknp => "SKNP"
  | ldVxDt => "LD_VX_DT" | ldVxK => "LD_VX_K" | ldDtVx => "LD_DT_VX" | ldStVx => "LD_ST_VX"
  | addIVx => "ADD_I_VX" | ldFVx => "LD_F_VX" | ldBVx => "LD_B_VX" | ldMemVx => "LD_MEM_VX"
  | ldVxMem => "LD_VX_MEM"

def all : List Op :=
  [cls, ret, sys, jp, call, seVxKk, sneVxKk, seVxVy, ldVxKk, addVxKk, ldVxVy, or, and, xor,
   addVxVy, sub, shr, subn, shl, sneVxVy, ldI, jpV0, rnd, drw, skp, sknp, ldVxDt, ldVxK, ldDtVx,
   ldStVx, addIVx, ldFVx, ldBVx, ldMemVx, ldVxMem]

/-- Counted from one. -/
def number (op : Op) : Nat := all.idxOf op + 1

def ofName? (s : String) : Option Op := all.find? (·.name = s)

end Op

end Chip8
