import Chip8.Frontend.Basic
import Chip8.Proofs.Machine.Reachable

/-!
How a program gets into memory. A program is read up to a limit, compared with the capacity of
the memory and copied behind the interpreter area; the three bounds agree to the byte, and no
byte is lost or moved on the way (`program_loading`).
-/

namespace Chip8

/-! ## Reading -/

namespace Rom

/-- All is read, or as many bytes as were asked for. -/
theorem readUpTo_cases (count : Int) (data : Array UInt8) :
    readUpTo count data = data ∧ (count < 0 ∨ data.size ≤ count) ∨
      ((readUpTo count data).size : Int) = count ∧ count < data.size := by
  unfold readUpTo
  split <;> rename_i hc
  · exact .inl ⟨rfl, .inl hc⟩
  · by_cases hs : (data.size : Int) ≤ count
    · exact .inl ⟨Array.extract_eq_self_of_le (by omega), .inr hs⟩
    · refine .inr ⟨?_, by omega⟩
      rw [Array.size_extract]
      omega

/-- One byte more than the limit tells whether there are too many. -/
theorem load_eq (limit : Int) (data : Array UInt8) :
    load limit data =
      if 1 ≤ data.size ∧ data.size ≤ limit then .ok data
      else if data.size = 0 ∨ limit = -1 then .error .empty
      else .error (.exceeds limit) := by
  have hread := readUpTo_cases (limit + 1) data
  unfold load
  generalize readUpTo (limit + 1) data = image at hread
  dsimp only
  rcases hread with ⟨rfl, hall⟩ | ⟨hsize, hmore⟩
  · by_cases hempty : image.size = 0
    · rw [if_pos hempty, if_neg (by omega), if_pos (.inl hempty)]
    · by_cases hfits : (image.size : Int) ≤ limit
      · rw [if_neg hempty, if_neg (by omega), if_pos (by omega)]
      · rw [if_neg hempty, if_pos (by omega), if_neg (by omega), if_neg (by omega)]
  · by_cases hlimit : limit = -1
    · rw [if_pos (by omega), if_neg (by omega), if_pos (.inr hlimit)]
    · rw [if_neg (by omega), if_pos (by omega), if_neg (by omega), if_neg (by omega)]

/-- There is memory to read as much as a program may have. -/
theorem loadFile_capacity (room : Room) (contents : Contents) :
    loadFile room programCapacity contents = loadContents programCapacity contents := by
  have hleast := room.least
  have hcapacity : programCapacity = 3584 := rfl
  rw [loadFile, if_neg (by decide), if_neg (by decide), if_neg (by decide), if_neg (by omega)]

/-- A file is read like a stream. -/
theorem loadFile_bytes (room : Room) (data : Array UInt8) :
    loadFile room programCapacity (.bytes data) = load programCapacity data :=
  loadFile_capacity room _

theorem loadFile_endless (room : Room) :
    loadFile room programCapacity .endless = .error (.exceeds programCapacity) :=
  loadFile_capacity room _

end Rom

/-! ## Into memory -/

theorem Machine.create_of_large {program : Array UInt8} (h : programCapacity < program.size)
    (dialect : Dialect) (strict : Bool) (entropy : Entropy) :
    create program dialect strict entropy = .error (.programTooLarge program.size) :=
  if_pos h

namespace Frontend

section

variable (c : Config) (room : Room) (entropy : Entropy) (path : Path) {data : Array UInt8}

/-- What the reader lets through, the machine takes. -/
theorem machineFrom_of_fits (h : 1 ≤ data.size ∧ data.size ≤ programCapacity) :
    ∃ memory, Memory.initial.load data programStart = .ok memory ∧
      machineFrom c room entropy path (.ok (.bytes data)) =
        .ok (.powerOn memory data c.dialect c.strict entropy) := by
  obtain ⟨memory, hl, hc⟩ := Machine.create_eq data h.2 c.dialect c.strict entropy
  refine ⟨memory, hl, ?_⟩
  unfold machineFrom
  dsimp only
  rw [Rom.loadFile_bytes, Rom.load_eq, if_pos ⟨h.1, by omega⟩]
  dsimp only
  rw [hc]

/-- What it does not let through is rejected there. -/
theorem machineFrom_of_misfits {contents : Contents}
    (h : ¬∃ data, contents = .bytes data ∧ 1 ≤ data.size ∧ data.size ≤ programCapacity) :
    ∃ e, (e = .empty ∨ e = .exceeds programCapacity) ∧
      machineFrom c room entropy path (.ok contents) = .error (.romRejected path e) := by
  unfold machineFrom
  dsimp only
  cases contents with
  | endless => exact ⟨_, .inr rfl, by rw [Rom.loadFile_endless]⟩
  | bytes data =>
    have hsize : ¬(1 ≤ data.size ∧ data.size ≤ programCapacity) := fun hs => h ⟨data, rfl, hs⟩
    have hload := Rom.load_eq programCapacity data
    rw [if_neg (by omega)] at hload
    refine ⟨if data.size = 0 then .empty else .exceeds programCapacity, ?_, ?_⟩
    · split
      · exact .inl rfl
      · exact .inr rfl
    · rw [Rom.loadFile_bytes, hload]
      by_cases hempty : data.size = 0
      · rw [if_pos (.inl hempty), if_pos hempty]
      · rw [if_neg (by omega), if_neg hempty]

end

/-- **Loading a program.** From a stream that gives as many bytes as it is asked for, and all of
them if it is asked for less than none, a program is read exactly if it is not empty and within
the limit, and then it is read as it is. A file becomes a machine exactly if it holds 1 to 3584
bytes, whatever the memory at hand; the machine then holds the font, these bytes behind the
interpreter area and zeros elsewhere. Any other file is rejected by what read it, never by the
machine: that is left to programs from elsewhere, of which it refuses those that are too large and
no others. -/
theorem program_loading :
    (∀ (limit : Int) (data : Array UInt8),
      Rom.load limit data =
        if 1 ≤ data.size ∧ data.size ≤ limit then .ok data
        else if data.size = 0 ∨ limit = -1 then .error .empty
        else .error (.exceeds limit)) ∧
    (∀ (c : Config) (room : Room) (entropy : Entropy) (path : Path) (contents : Contents),
      let made := machineFrom c room entropy path (.ok contents)
      ((∃ m, made = .ok m) ↔
        ∃ data, contents = .bytes data ∧ 1 ≤ data.size ∧ data.size ≤ 3584) ∧
      (∀ m data, made = .ok m → contents = .bytes data →
        m.program = data ∧ m.memory.toList =
          fontBytes ++ List.replicate (0x200 - fontBytes.length) 0 ++ data.toList ++
            List.replicate (3584 - data.size) 0) ∧
      ((∃ m, made = .ok m) ∨ made = .error (.romRejected path .empty) ∨
        made = .error (.romRejected path (.exceeds 3584)))) ∧
    ∀ (program : Array UInt8) (dialect : Dialect) (strict : Bool) (entropy : Entropy),
      let made := Machine.create program dialect strict entropy
      (made = .error (.programTooLarge program.size) ↔ 3584 < program.size) ∧
      ((∃ m, made = .ok m) ↔ program.size ≤ 3584) := by
  have hcapacity : programCapacity = 3584 := rfl
  refine ⟨Rom.load_eq, ?_, ?_⟩
  · intro c room entropy path contents made
    by_cases h : ∃ data, contents = .bytes data ∧ 1 ≤ data.size ∧ data.size ≤ programCapacity
    · have hfits := h
      obtain ⟨data, rfl, hsize⟩ := h
      obtain ⟨memory, hl, hmade⟩ := machineFrom_of_fits c room entropy path hsize
      refine ⟨⟨fun _ => hfits, fun _ => ⟨_, hmade⟩⟩, ?_, .inl ⟨_, hmade⟩⟩
      intro m data' hm hdata
      cases hdata
      cases hmade.symm.trans hm
      exact ⟨rfl, Memory.toList_of_load hsize.2 hl⟩
    · obtain ⟨e, he, hmade⟩ := machineFrom_of_misfits c room entropy path h
      have hmade : made = .error (.romRejected path e) := hmade
      have hnone (m : Machine) : made ≠ .ok m := by simp [hmade]
      refine ⟨⟨fun ⟨m, hm⟩ => absurd hm (hnone m), fun hdata => absurd hdata h⟩,
        fun m _ hm => absurd hm (hnone m), .inr ?_⟩
      rcases he with rfl | rfl
      · exact .inl hmade
      · exact .inr hmade
  · intro program dialect strict entropy made
    by_cases h : programCapacity < program.size
    · have hmade : made = _ := Machine.create_of_large h dialect strict entropy
      rw [hmade]
      refine ⟨⟨fun _ => h, fun _ => rfl⟩, ⟨?_, fun hs => by omega⟩⟩
      rintro ⟨_, hm⟩
      cases hm
    · obtain ⟨memory, -, hmade⟩ := Machine.create_eq program (by omega) dialect strict entropy
      have hmade : made = _ := hmade
      rw [hmade]
      refine ⟨⟨?_, fun hs => absurd hs h⟩, ⟨fun _ => by omega, fun _ => ⟨_, rfl⟩⟩⟩
      intro hm
      cases hm

end Frontend

end Chip8
