import Chip8.Instruction.Standard
import Chip8.Proofs.Lists
import Mathlib.Algebra.Group.Nat.Defs
import Mathlib.Data.List.Nodup

/-!
Looking words up. A table that was built by registration finds the instruction
registered first among those a word matches (`lookup_eq_find?`). Two standard
instructions share a word only where one of them is `sys`, which comes last in
its group; so every other instruction is found at exactly the words of its
pattern (`op?_eq_some_iff`), and a word finds nothing exactly when it matches
none (`lookup_eq_none_iff`).
-/

namespace Chip8

namespace Word

/-- A mask that fixes the group and the lowest `n` bits. -/
theorem masked_eq {w mask : Word} {n : Nat} (hn : n ≤ 12)
    (hm : mask.val = 0xF000 + (2 ^ n - 1)) :
    w.masked mask = 0x1000 * w.group.val + w.val % 2 ^ n := by
  have hp : 2 ^ n ≤ 2 ^ 12 := Nat.pow_le_pow_right (by omega) hn
  have hpos : 0 < 2 ^ n := Nat.two_pow_pos n
  have htop : w.masked mask / 2 ^ 12 = w.group.val := by
    have := w.group.isLt
    have h15 : mask.val / 2 ^ 12 = 2 ^ 4 - 1 := by omega
    rw [masked, Nat.and_div_two_pow, h15, Nat.and_two_pow_sub_one_eq_mod]
    exact Nat.mod_eq_of_lt this
  have hlow : w.masked mask % 2 ^ 12 = w.val % 2 ^ n := by
    have hm' : mask.val % 2 ^ 12 = 2 ^ n - 1 := by omega
    rw [masked, Nat.and_mod_two_pow, hm', Nat.and_two_pow_sub_one_eq_mod]
    exact Nat.mod_mod_of_dvd _ (Nat.pow_dvd_pow 2 hn)
  have := Nat.div_add_mod (w.masked mask) (2 ^ 12)
  omega

theorem kk_eq_iff (w : Word) (b : UInt8) : w.kk = b ↔ w.val % 0x100 = b.toNat := by
  rw [← UInt8.toNat_inj, kk, UInt8.toNat_ofNat']
  omega

end Word

namespace Instruction

/-- No word matches both. -/
def apart (i j : Instruction) : Bool := i.pattern.masked j.mask ≠ j.pattern.masked i.mask

theorem not_matchesWord_of_apart {i j : Instruction} (h : i.apart j = true) {w : Word}
    (hj : j.matchesWord w = true) : i.matchesWord w = false := by
  rw [Bool.eq_false_iff]
  intro hi
  simp only [matchesWord, decide_eq_true_eq] at hi hj
  simp only [apart, decide_eq_true_eq] at h
  apply h
  -- Both sides are `w` under the two masks together.
  calc
    i.pattern.masked j.mask = w.val &&& i.mask.val &&& j.mask.val := by
      rw [Word.masked, ← hi, Word.masked]
    _ = w.val &&& j.mask.val &&& i.mask.val := by
      rw [Nat.and_assoc, Nat.and_comm i.mask.val, ← Nat.and_assoc]
    _ = j.pattern.masked i.mask := by rw [Word.masked, ← hj, Word.masked]

theorem group_eq_of_matchesWord {i : Instruction} (hm : i.mask.masked 0xF000 = 0xF000)
    {w : Word} (h : i.matchesWord w = true) : i.group = w.group := by
  have hp : w.masked i.mask = i.pattern.val := by
    simpa only [matchesWord, decide_eq_true_eq] using h
  have hw : i.pattern.masked 0xF000 = w.masked 0xF000 := by
    rw [Word.masked, ← hp, Word.masked, Nat.and_assoc]
    exact congrArg (w.val &&& ·) hm
  rw [Word.masked_eq (n := 0) (by omega) rfl, Word.masked_eq (n := 0) (by omega) rfl] at hw
  apply Fin.eq_of_val_eq
  show i.pattern.group.val = w.group.val
  omega

end Instruction

namespace Table

/-- Every group holds its entries in their order, and no entry leaves its group open. -/
structure Grouped (t : Table) : Prop where
  groups : ∀ g, t.groups.get g = t.entries.filter (·.group = g)
  closed : ∀ i ∈ t.entries, i.mask.masked 0xF000 = 0xF000

theorem empty_grouped : empty.Grouped := by
  constructor
  · intro g
    simp [empty, Vector.get]
  · intro i hi
    cases hi

theorem insert_grouped {t : Table} (h : t.Grouped) {i : Instruction}
    (hi : i.mask.masked 0xF000 = 0xF000) : (t.insert i).Grouped := by
  constructor
  · intro g
    rw [insert, get_set, List.filter_append, ← h.groups]
    by_cases hg : i.group = g
    · simp [hg]
    · simp [hg]
  · intro j hj
    rcases List.mem_append.mp hj with hj | hj
    · exact h.closed j hj
    · cases List.mem_singleton.mp hj
      exact hi

theorem register_grouped {t t' : Table} (h : t.Grouped) {i : Instruction}
    (hr : t.register i = .ok t') : t'.Grouped := by
  unfold register at hr
  split at hr
  · cases hr
  · cases hr
    apply insert_grouped h
    rename_i hn
    unfold refusal? at hn
    split at hn
    · cases hn
    · exact Decidable.not_not.mp ‹_›

theorem registerAll_grouped {t : Table} (h : t.Grouped) (is : List Instruction) :
    (t.registerAll is).1.Grouped := by
  induction is generalizing t with
  | nil => exact h
  | cons i is ih =>
    unfold registerAll
    split
    · exact ih (register_grouped h ‹_›)
    · exact h

theorem registerAll_entries (t : Table) (is : List Instruction)
    (h : (t.registerAll is).2 = none) : (t.registerAll is).1.entries = t.entries ++ is := by
  induction is generalizing t with
  | nil => simp [registerAll]
  | cons i is ih =>
    unfold registerAll at h ⊢
    cases hr : t.register i with
    | error e => simp [hr] at h
    | ok t' =>
      have ht : t'.entries = t.entries ++ [i] := by
        unfold register at hr
        split at hr
        · cases hr
        · cases hr; rfl
      simp only [hr] at h ⊢
      rw [ih t' h, ht, List.append_assoc, List.singleton_append]

/-- **The first match in order of registration wins.** -/
theorem lookup_eq_find? {t : Table} (h : t.Grouped) (w : Word) :
    t.lookup w = t.entries.find? (·.matchesWord w) := by
  rw [lookup, h.groups]
  apply find?_filter_of_imp
  intro i hi hm
  simp [Instruction.group_eq_of_matchesWord (h.closed i hi) hm]

end Table

namespace Standard

theorem table_grouped : table.Grouped := Table.registerAll_grouped Table.empty_grouped _

theorem table_entries : table.entries = instructions := by
  exact Table.registerAll_entries Table.empty instructions (by decide +kernel)

theorem instructions_apart :
    instructions.Pairwise fun i j => i.apart j = true ∨ j.op = .sys := by decide +kernel

theorem instructions_ops_nodup : (instructions.map (·.op)).Nodup := by decide

theorem lookup_eq_none_iff (w : Word) :
    table.lookup w = none ↔ ∀ i ∈ instructions, i.matchesWord w = false := by
  rw [Table.lookup_eq_find? table_grouped, table_entries, List.find?_eq_none]
  simp

theorem mem_of_lookup {w : Word} {i : Instruction} (h : table.lookup w = some i) :
    i ∈ instructions ∧ i.matchesWord w = true := by
  rw [Table.lookup_eq_find? table_grouped, table_entries] at h
  exact ⟨List.mem_of_find?_eq_some h,
    List.find?_some (p := fun k : Instruction => k.matchesWord w) h⟩

/-- What a word does, if it does anything. -/
def op? (w : Word) : Option Op := (table.lookup w).map (·.op)

/-- Each instruction but `sys` is found at exactly the words of its pattern. -/
theorem op?_eq_some_iff {i : Instruction} (hi : i ∈ instructions) (hs : i.op ≠ .sys) (w : Word) :
    op? w = some i.op ↔ i.matchesWord w = true := by
  rw [op?, Option.map_eq_some_iff]
  constructor
  · rintro ⟨j, hj, he⟩
    obtain ⟨hm, hw⟩ := mem_of_lookup hj
    cases List.inj_on_of_nodup_map instructions_ops_nodup hm hi he
    exact hw
  · intro hw
    rw [Table.lookup_eq_find? table_grouped, table_entries]
    refine ⟨i, find?_eq_some_of_pairwise instructions_apart hi hw ?_, rfl⟩
    rintro j (ha | he)
    · exact Instruction.not_matchesWord_of_apart ha hw
    · exact absurd he hs

end Standard

end Chip8
