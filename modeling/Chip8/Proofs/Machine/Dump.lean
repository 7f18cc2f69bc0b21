import Chip8.Machine.Report
import Chip8.Proofs.Memory
import Chip8.Proofs.Text.Hex

/-!
A dump of memory, read back. Each line is spelled out of an address and of bytes
(`toList_dumpLine`), which are read from it again (`DumpLine.read_spelled`); and the bytes of all
lines, one behind the other, are the memory that was asked for (`readBytes_dump`).
-/

namespace Chip8

open Text (hexDigits readHex)

/-- What a line of a dump shows. -/
structure DumpLine where
  address : Nat
  bytes : List Nat
  deriving DecidableEq

namespace DumpLine

/-- Three digits for the address and a colon; then, for each byte, a blank and two digits. -/
def spelled (l : DumpLine) : List Char :=
  hexDigits 3 l.address ++ ':' :: l.bytes.flatMap fun b => ' ' :: hexDigits 2 b

def takeBytes : List Char → Option (List Nat)
  | [] => some []
  | ' ' :: c :: d :: cs => do
    let b ← readHex [c, d]
    let bs ← takeBytes cs
    some (b :: bs)
  | _ => none

def read (line : String) : Option DumpLine :=
  match line.toList with
  | a :: b :: c :: ':' :: cs => do
    let address ← readHex [a, b, c]
    let bytes ← takeBytes cs
    some ⟨address, bytes⟩
  | _ => none

/-- The bytes of all lines, in order. -/
def readBytes : List String → Option (List Nat)
  | [] => some []
  | line :: lines => do
    let l ← read line
    let bs ← readBytes lines
    some (l.bytes ++ bs)

theorem takeBytes_spelled {bs : List Nat} (h : ∀ b ∈ bs, b < 0x100) :
    takeBytes (bs.flatMap fun b => ' ' :: hexDigits 2 b) = some bs := by
  induction bs with
  | nil => rfl
  | cons b bs ih =>
    have hb := Text.readHex_hexDigits (k := 2) (h b List.mem_cons_self)
    have hbs := ih fun c hc => h c (List.mem_cons_of_mem b hc)
    simp only [hexDigits, List.nil_append, List.cons_append] at hb hbs
    simp only [List.flatMap_cons, hexDigits, List.nil_append, List.cons_append, takeBytes, hb,
      hbs, Option.bind_eq_bind, Option.bind_some]

/-- A line is read back. -/
theorem read_spelled {l : DumpLine} (ha : l.address < 0x1000) (hb : ∀ b ∈ l.bytes, b < 0x100)
    {line : String} (h : line.toList = l.spelled) : read line = some l := by
  have haddress := Text.readHex_hexDigits (k := 3) ha
  rw [read, h, spelled]
  simp only [hexDigits, List.nil_append, List.cons_append] at haddress ⊢
  have hbytes := takeBytes_spelled hb
  simp only [hexDigits, List.nil_append, List.cons_append] at hbytes
  simp only [haddress, hbytes, Option.bind_eq_bind, Option.bind_some]

example : read "FFE: 0A FF" = some ⟨0xFFE, [10, 255]⟩ := by decide

theorem readBytes_map {ι : Type} {f : ι → String} {g : ι → DumpLine} (is : List ι)
    (h : ∀ i ∈ is, read (f i) = some (g i)) :
    readBytes (is.map f) = some (is.flatMap fun i => (g i).bytes) := by
  induction is with
  | nil => rfl
  | cons i is ih =>
    have hi := h i List.mem_cons_self
    have his := ih fun j hj => h j (List.mem_cons_of_mem i hj)
    rw [List.map_cons, readBytes, hi, his]
    rfl

end DumpLine

namespace Machine

/-- What the `j`th line of a dump has to show: the address of its first byte, and up to sixteen
bytes, around the end of memory. -/
def dumped (m : Machine) (start length : Int) (j : Nat) : DumpLine where
  address := ((start + 16 * j) % 0x1000).toNat
  bytes := (List.range (min 16 (length - 16 * j)).toNat).map fun k : Nat =>
    (m.memory.read ((start + 16 * j + k) % 0x1000)).toNat

theorem dumped_bytes (m : Machine) (start length : Int) (j : Nat) :
    (m.dumped start length j).bytes =
      (m.dumpChunk start length.toNat j).map UInt8.toNat := by
  have hcount : (min 16 (length - 16 * j)).toNat = min 16 (length.toNat - 16 * j) := by omega
  rw [dumped, dumpChunk, Memory.block, List.map_map, hcount]
  apply List.map_congr_left
  intro k _
  exact congrArg UInt8.toNat (m.memory.read_congr (by simp only [dumpWidth]; omega))

/-- Texts behind blanks are texts between blanks with one in front. -/
theorem toList_intercalate_blank {ss : List String} (h : ss ≠ []) :
    ' ' :: (" ".intercalate ss).toList = ss.flatMap fun s => ' ' :: s.toList := by
  induction ss with
  | nil => exact absurd rfl h
  | cons s ss ih =>
    cases ss with
    | nil => simp
    | cons t ss =>
      rw [String.intercalate_cons_cons, List.flatMap_cons, ← ih (List.cons_ne_nil t ss)]
      simp

theorem toList_dumpLine (m : Machine) (start : Int) {length : Int} {j : Nat}
    (hj : 16 * j < length) :
    (m.dumpLine start length.toNat j).toList = (m.dumped start length j).spelled := by
  have haddress : (start + dumpWidth * j) % 0x1000 = ((m.dumped start length j).address : Nat) := by
    simp only [dumped, dumpWidth]
    omega
  have hlt : (m.dumped start length j).address < 0x1000 := by
    simp only [dumped]
    omega
  have hne : (m.dumpChunk start length.toNat j).map (fun b => Text.hex 2 b.toNat) ≠ [] := by
    intro hnil
    have hlength := congrArg List.length hnil
    simp only [dumpChunk, Memory.block, List.length_map, List.length_range, List.length_nil,
      dumpWidth] at hlength
    omega
  have hbytes := toList_intercalate_blank hne
  rw [List.flatMap_map] at hbytes
  have hbyte : ∀ b : UInt8, (Text.hex 2 b.toNat).toList = hexDigits 2 b.toNat := fun b =>
    Text.toList_hex (by decide) b.toNat_lt
  rw [dumpLine, haddress, String.toList_append, String.toList_append,
    Text.toList_hex (by decide) hlt, List.append_assoc, DumpLine.spelled, dumped_bytes,
    List.flatMap_map]
  simp only [hbyte] at hbytes
  exact congrArg (hexDigits 3 _ ++ ':' :: ·) hbytes

/-- A line of a dump reads as what it has to show. -/
theorem read_dumpLine (m : Machine) (start : Int) {length : Int} {j : Nat}
    (hj : 16 * j < length) :
    DumpLine.read (m.dumpLine start length.toNat j) = some (m.dumped start length j) := by
  refine DumpLine.read_spelled ?_ ?_ (m.toList_dumpLine start hj)
  · simp only [dumped]
    omega
  · intro b hb
    obtain ⟨k, -, rfl⟩ := List.mem_map.mp hb
    exact (m.memory.read _).toNat_lt

theorem lt_of_lt_lines {length : Int} {j : Nat}
    (h : j < (length.toNat + (dumpWidth - 1)) / dumpWidth) : 16 * j < length := by
  simp only [dumpWidth] at h
  omega

/-- A line more goes on where the lines before it end. -/
theorem flatMap_dumpChunk (m : Machine) (start : Int) (length n : Nat) :
    (List.range n).flatMap (m.dumpChunk start length) =
      m.memory.block start (min length (dumpWidth * n)) := by
  induction n with
  | zero =>
    rw [Nat.mul_zero, Nat.min_zero]
    rfl
  | succ n ih =>
    rw [List.range_succ, List.flatMap_append, ih, List.flatMap_singleton]
    rcases Nat.le_total length (dumpWidth * n) with hle | hge
    · -- Nothing is left for the line.
      have hnone : min dumpWidth (length - dumpWidth * n) = 0 := by omega
      have hsame : min length (dumpWidth * (n + 1)) = min length (dumpWidth * n) := by
        rw [Nat.mul_succ]
        omega
      rw [dumpChunk, hnone, hsame]
      exact List.append_nil _
    · have hsum : min length (dumpWidth * (n + 1)) =
          dumpWidth * n + min dumpWidth (length - dumpWidth * n) := by
        rw [Nat.mul_succ]
        omega
      rw [dumpChunk, hsum, Nat.min_eq_right hge, Memory.block_add, Int.natCast_mul]

/-- The bytes of all lines are the memory from `start` on. -/
theorem readBytes_dump (m : Machine) (start length : Int) :
    DumpLine.readBytes (m.dump start length) =
      some ((m.memory.block start length.toNat).map UInt8.toNat) := by
  have hall : min length.toNat
      (dumpWidth * ((length.toNat + (dumpWidth - 1)) / dumpWidth)) = length.toNat := by
    simp only [dumpWidth]
    omega
  have hread := DumpLine.readBytes_map (f := m.dumpLine start length.toNat)
    (g := m.dumped start length)
    (List.range ((length.toNat + (dumpWidth - 1)) / dumpWidth))
    fun j hj => m.read_dumpLine start (lt_of_lt_lines (List.mem_range.mp hj))
  simp only [dumped_bytes] at hread
  rw [dump, hread, ← List.map_flatMap, flatMap_dumpChunk, hall]

/-- **A dump shows exactly the bytes that were asked for.** It has as many lines as it takes to
show them by sixteen, and none where none were asked for; each shows its address in three digits
and its bytes in two; and the bytes read from all lines are those of memory from the start on, in
order, one by one, however often the range goes around the end of memory. -/
theorem dump_shows (m : Machine) (start length : Int) :
    (0 < length → ((m.dump start length).length : Int) = (length + 15) / 16) ∧
    (length ≤ 0 → m.dump start length = []) ∧
    (∀ (j : Nat) (line : String), (m.dump start length)[j]? = some line →
      line.toList = (m.dumped start length j).spelled ∧
      DumpLine.read line = some (m.dumped start length j)) ∧
    DumpLine.readBytes (m.dump start length) =
      some ((List.range length.toNat).map fun k : Nat =>
        (m.memory.read ((start + k) % 0x1000)).toNat) := by
  refine ⟨fun h => ?_, fun h => ?_, fun j line hline => ?_, ?_⟩
  · rw [dump, List.length_map, List.length_range, dumpWidth]
    omega
  · have hnone : (length.toNat + (dumpWidth - 1)) / dumpWidth = 0 := by
      simp only [dumpWidth]
      omega
    rw [dump, hnone]
    rfl
  · rw [dump, List.getElem?_map, Option.map_eq_some_iff] at hline
    obtain ⟨i, hi, rfl⟩ := hline
    obtain ⟨hlt, rfl⟩ := List.getElem?_eq_some_iff.mp hi
    rw [List.length_range] at hlt
    rw [List.getElem_range]
    exact ⟨m.toList_dumpLine start (lt_of_lt_lines hlt),
      m.read_dumpLine start (lt_of_lt_lines hlt)⟩
  · rw [readBytes_dump, Memory.block, List.map_map]
    refine congrArg some (List.map_congr_left fun k _ => ?_)
    exact congrArg UInt8.toNat (m.memory.read_congr (by omega))

end Machine

end Chip8
