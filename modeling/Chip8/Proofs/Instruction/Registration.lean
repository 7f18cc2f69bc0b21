import Chip8.Proofs.Instruction.Lookup

/-!
Tables that were built by registration, where some instructions were refused. The
groups of such a table are its entries behind a filter, so it is one list that is
searched from the front and takes no instruction twice (`registerEach_linear`).
-/

namespace Chip8

namespace Table

/-- A list of instructions takes those that fix their group, under operations and
patterns it does not know. -/
def Admits (known : List Instruction) (i : Instruction) : Prop :=
  i.mask.masked 0xF000 = 0xF000 ∧
    ∀ j ∈ known, j.op ≠ i.op ∧ ¬(j.mask = i.mask ∧ j.pattern = i.pattern)

instance (known : List Instruction) (i : Instruction) : Decidable (Admits known i) :=
  inferInstanceAs (Decidable (_ ∧ ∀ j ∈ known, _))

def take (known : List Instruction) (i : Instruction) : List Instruction :=
  if Admits known i then known ++ [i] else known

/-- Registers one instruction after the other; those refused are passed over. -/
def registerEach (t : Table) : List Instruction → Table
  | [] => t
  | i :: is => (t.registerAll [i]).1.registerEach is

theorem get?_eq_none_iff (t : Table) (op : Op) :
    t.get? op = none ↔ ∀ j ∈ t.entries, j.op ≠ op := by
  simp [get?, List.find?_eq_none]

/-- One group is enough to look for a pattern. -/
theorem pattern_fresh_iff {t : Table} (h : t.Grouped) (i : Instruction) :
    (t.groups.get i.group).find? (fun j => j.mask = i.mask && j.pattern = i.pattern) = none ↔
      ∀ j ∈ t.entries, ¬(j.mask = i.mask ∧ j.pattern = i.pattern) := by
  rw [h.groups, find?_filter_of_imp]
  · simp [List.find?_eq_none]
  · intro j _ hj
    have hp : j.pattern = i.pattern := by simp_all
    simp [Instruction.group, hp]

theorem refusal?_eq_none_iff {t : Table} (h : t.Grouped) (i : Instruction) :
    t.refusal? i = none ↔ Admits t.entries i := by
  rw [Admits, forall₂_and, ← t.get?_eq_none_iff, ← pattern_fresh_iff h]
  unfold refusal?
  by_cases hm : i.mask.masked 0xF000 = 0xF000
  · simp only [hm, ne_eq, not_true_eq_false, ↓reduceIte, true_and]
    cases t.get? i.op with
    | some known => simp
    | none => simp
  · simp [hm]

theorem register_ok_iff {t : Table} (h : t.Grouped) (i : Instruction) (t' : Table) :
    t.register i = .ok t' ↔ Admits t.entries i ∧ t' = t.insert i := by
  rw [← refusal?_eq_none_iff h]
  unfold register
  cases t.refusal? i with
  | some e => simp
  | none => simp [eq_comm]

theorem register_error_iff {t : Table} (h : t.Grouped) (i : Instruction) :
    (∃ e, t.register i = .error e) ↔ ¬Admits t.entries i := by
  rw [← refusal?_eq_none_iff h]
  unfold register
  cases t.refusal? i with
  | some e => simp
  | none => simp

theorem registerEach_grouped {t : Table} (h : t.Grouped) (is : List Instruction) :
    (t.registerEach is).Grouped := by
  induction is generalizing t with
  | nil => exact h
  | cons i is ih => exact ih (registerAll_grouped h [i])

theorem registerEach_entries {t : Table} (h : t.Grouped) (is : List Instruction) :
    (t.registerEach is).entries = is.foldl take t.entries := by
  induction is generalizing t with
  | nil => rfl
  | cons i is ih =>
    rw [registerEach, ih (registerAll_grouped h [i]), List.foldl_cons]
    congr 1
    unfold registerAll take
    cases hr : t.register i with
    | ok t' =>
      obtain ⟨ha, rfl⟩ := (register_ok_iff h i t').mp hr
      rw [if_pos ha]
      rfl
    | error e => rw [if_neg ((register_error_iff h i).mp ⟨e, hr⟩)]

theorem mem_foldl_take {i : Instruction} {is known : List Instruction}
    (h : i ∈ is.foldl take known) : i ∈ known ∨ i ∈ is := by
  induction is generalizing known with
  | nil => exact .inl h
  | cons j is ih =>
    rcases ih h with h | h
    · unfold take at h
      split at h
      · rcases List.mem_append.mp h with h | h
        · exact .inl h
        · rw [List.mem_singleton.mp h]
          exact .inr List.mem_cons_self
      · exact .inl h
    · exact .inr (List.mem_cons_of_mem j h)

/-- **A table is its list of entries.** Whatever was registered or refused, the entries
are what the list admitted, in that order; a word finds the first of them that it matches;
an instruction is refused exactly if the list does not admit it, and then nothing
changes, or else it comes last and is found under its operation. -/
theorem registerEach_linear (is : List Instruction) :
    let t := empty.registerEach is
    t.entries = is.foldl take [] ∧
    (∀ n : Int, t.lookup (.ofInt n) =
      t.entries.find? fun i => (n % 0x10000).toNat &&& i.mask.val = i.pattern.val) ∧
    (∀ n : Int, t.lookup (.ofInt n) = none ↔
      ∀ i ∈ t.entries, (n % 0x10000).toNat &&& i.mask.val ≠ i.pattern.val) ∧
    (∀ i, (∃ e, t.register i = .error e) ↔
      i.mask.val &&& 0xF000 ≠ 0xF000 ∨ (∃ j ∈ t.entries, j.op = i.op) ∨
        ∃ j ∈ t.entries, j.mask = i.mask ∧ j.pattern = i.pattern) ∧
    (∀ i e, t.register i = .error e → t.registerAll [i] = (t, some e)) ∧
    ∀ i t', t.register i = .ok t' →
      t.registerAll [i] = (t', none) ∧ t'.entries = t.entries ++ [i] ∧
      t'.size = t.size + 1 ∧ t'.get? i.op = some i ∧ ∀ op ≠ i.op, t'.get? op = t.get? op := by
  have h := registerEach_grouped empty_grouped is
  have he := registerEach_entries empty_grouped is
  have hl : ∀ n : Int, (empty.registerEach is).lookup (.ofInt n) =
      (empty.registerEach is).entries.find? fun i =>
        (n % 0x10000).toNat &&& i.mask.val = i.pattern.val := fun n => lookup_eq_find? h _
  generalize empty.registerEach is = t at h he hl
  refine ⟨he, hl, ?_, ?_, ?_, ?_⟩
  · intro n
    rw [hl, List.find?_eq_none]
    simp
  · intro i
    rw [register_error_iff h, Admits]
    show ¬(i.mask.val &&& 0xF000 = 0xF000 ∧ _) ↔ _
    grind
  · intro i e hr
    simp [registerAll, hr]
  · intro i t' hr
    obtain ⟨ha, rfl⟩ := (register_ok_iff h i t').mp hr
    have hold : t.get? i.op = none := (t.get?_eq_none_iff i.op).mpr fun j hj => (ha.2 j hj).1
    refine ⟨by simp [registerAll, hr], rfl, by simp [size, insert], ?_, ?_⟩
    · rw [get?] at hold
      simp [get?, insert, List.find?_append, hold]
    · intro op hop
      simp [get?, insert, List.find?_append, hop.symm]

end Table

end Chip8
