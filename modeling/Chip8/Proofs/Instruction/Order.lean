import Chip8.Proofs.Instruction.Registration
import Chip8.Proofs.Instruction.Shape
import Mathlib.Data.List.Permutation

/-!
The standard instructions in another order. Whatever the order, every one of them is
registered (`registerAll_perm`); and since no two of them share a word but `cls` or `ret` with
`sys`, all that an order decides is whether the words 00E0 and 00EE find `sys`
(`lookup_perm_iff`).
-/

namespace Chip8

theorem idxOf_lt_of_sublist {α : Type} [DecidableEq α] {l : List α} (hl : l.Nodup) {a b : α}
    (h : [a, b].Sublist l) : l.idxOf a < l.idxOf b := by
  induction l with
  | nil => cases h
  | cons c l ih =>
    obtain ⟨hc, hl⟩ := List.nodup_cons.mp hl
    cases h with
    | cons _ h =>
      have ha : c ≠ a := fun e => hc (e ▸ h.subset List.mem_cons_self)
      have hb : c ≠ b := fun e => hc (e ▸ h.subset (List.mem_cons_of_mem a List.mem_cons_self))
      rw [List.idxOf_cons_ne _ ha, List.idxOf_cons_ne _ hb]
      exact Nat.succ_lt_succ (ih hl h)
    | cons_cons _ h =>
      have hb : a ≠ b := fun e => hc (e ▸ h.subset List.mem_cons_self)
      rw [List.idxOf_cons_self, List.idxOf_cons_ne _ hb]
      exact Nat.succ_pos _

namespace Table

/-- Neither keeps the other out of a table. -/
def Compatible (i j : Instruction) : Prop :=
  i.op ≠ j.op ∧ ¬(i.mask = j.mask ∧ i.pattern = j.pattern)

instance : DecidableRel Compatible := fun _ _ => inferInstanceAs (Decidable (_ ∧ _))

theorem Compatible.symm {i j : Instruction} (h : Compatible i j) : Compatible j i :=
  ⟨h.1.symm, fun e => h.2 ⟨e.1.symm, e.2.symm⟩⟩

/-- Instructions that are compatible with one another and with the table are all registered. -/
theorem registerAll_of_compatible {t : Table} (h : t.Grouped) {is : List Instruction}
    (hm : ∀ i ∈ is, i.mask.masked 0xF000 = 0xF000)
    (hp : (t.entries ++ is).Pairwise Compatible) : (t.registerAll is).2 = none := by
  induction is generalizing t with
  | nil => rfl
  | cons i is ih =>
    have ha : Admits t.entries i :=
      ⟨hm i List.mem_cons_self, fun j hj =>
        (List.pairwise_append.mp hp).2.2 j hj i List.mem_cons_self⟩
    have hr : t.register i = .ok (t.insert i) := (register_ok_iff h i _).mpr ⟨ha, rfl⟩
    rw [registerAll, hr]
    apply ih (register_grouped h hr) (fun j hj => hm j (List.mem_cons_of_mem i hj))
    show ((t.entries ++ [i]) ++ is).Pairwise Compatible
    rwa [List.append_cons] at hp

end Table

theorem Word.ofInt_eq_iff (n : Int) (w : Word) : Word.ofInt n = w ↔ n % 0x10000 = w.val := by
  rw [Fin.ext_iff]
  show (n % 0x10000).toNat = w.val ↔ _
  omega

namespace Standard

theorem instructions_closed :
    ∀ i ∈ instructions, i.mask.masked 0xF000 = 0xF000 := by decide

theorem instructions_compatible : instructions.Pairwise Table.Compatible := by decide +kernel

/-- In group 0 there are only `cls` and `ret` beside `sys`. -/
theorem instructions_group_zero :
    ∀ i ∈ instructions, i.group = 0 → i.op = .cls ∨ i.op = .ret ∨ i.op = .sys := by decide

theorem eq_of_op_eq {i j : Instruction} (hi : i ∈ instructions) (hj : j ∈ instructions)
    (h : i.op = j.op) : i = j :=
  List.inj_on_of_nodup_map instructions_ops_nodup hi hj h

/-- A word of `sys` that is not one of its two exceptions is no other instruction's. -/
theorem eq_sys_of_matchesWord {i s : Instruction} (hi : i ∈ instructions) (hs : s ∈ instructions)
    (ho : s.op = .sys) {w : Word} (hmi : i.matchesWord w = true) (hms : s.matchesWord w = true)
    (hcls : w ≠ 0x00E0) (hret : w ≠ 0x00EE) : i = s := by
  apply eq_of_op_eq hi hs
  have hg : i.group = 0 := by
    rw [Instruction.group_eq_of_matchesWord (instructions_closed i hi) hmi]
    have hf := (matchesWord_iff_fits hs w).mp hms
    rwa [ho] at hf
  have hf := (matchesWord_iff_fits hi w).mp hmi
  rcases instructions_group_zero i hi hg with h | h | h
  · rw [h] at hf
    exact absurd hf hcls
  · rw [h] at hf
    exact absurd hf hret
  · rw [h, ho]

theorem eq_of_matchesWord {i j : Instruction} (hi : i ∈ instructions) (hj : j ∈ instructions)
    {w : Word} (hmi : i.matchesWord w = true) (hmj : j.matchesWord w = true)
    (hcls : w ≠ 0x00E0) (hret : w ≠ 0x00EE) : i = j := by
  by_cases hsi : i.op = .sys
  · exact (eq_sys_of_matchesWord hj hi hsi hmj hmi hcls hret).symm
  by_cases hsj : j.op = .sys
  · exact eq_sys_of_matchesWord hi hj hsj hmi hmj hcls hret
  -- Neither is `sys`, so the standard table finds both of them at `w`.
  apply eq_of_op_eq hi hj
  have h := ((op?_eq_some_iff hi hsi w).mpr hmi).symm.trans ((op?_eq_some_iff hj hsj w).mpr hmj)
  exact Option.some.inj h

/-- Where one instruction shares a word with `sys`, the earlier of the two is found. -/
theorem find?_perm_iff {is : List Instruction} (h : is.Perm instructions) {w : Word} (op : Op)
    (hw : (instructions.filter (·.matchesWord w)).map (·.op) = [op, .sys]) :
    is.find? (·.matchesWord w) = instructions.find? (·.matchesWord w) ↔
      (is.map (·.op)).idxOf op < (is.map (·.op)).idxOf .sys := by
  obtain ⟨i, s, hf, rfl, hs⟩ : ∃ i s, instructions.filter (·.matchesWord w) = [i, s] ∧
      i.op = op ∧ s.op = .sys := by
    simpa [List.map_eq_cons_iff, and_assoc] using hw
  have hnd : (is.map (·.op)).Nodup := (h.map _).nodup_iff.mpr instructions_ops_nodup
  have hsub : ((is.filter (·.matchesWord w)).map (·.op)).Sublist (is.map (·.op)) :=
    List.filter_sublist.map _
  rw [← List.head?_filter, ← List.head?_filter, hf]
  have hp := h.filter fun j => j.matchesWord w
  rw [hf, List.perm_pair] at hp
  rcases hp with hp | hp
  · rw [hp, List.map_cons, List.map_singleton, hs] at hsub
    rw [hp]
    exact iff_of_true rfl (idxOf_lt_of_sublist hnd hsub)
  · rw [hp, List.map_cons, List.map_singleton, hs] at hsub
    rw [hp]
    have hlt := idxOf_lt_of_sublist hnd hsub
    refine iff_of_false ?_ (Nat.lt_asymm hlt)
    intro he
    cases Option.some.inj he
    rw [hs] at hlt
    exact Nat.lt_irrefl _ hlt

theorem registerAll_perm {is : List Instruction} (h : is.Perm instructions) :
    (Table.empty.registerAll is).2 = none := by
  apply Table.registerAll_of_compatible Table.empty_grouped
  · exact fun i hi => instructions_closed i (h.mem_iff.mp hi)
  · exact (h.pairwise_iff Table.Compatible.symm).mpr instructions_compatible

/-- An order is told from the standard one by no words but 00E0 and 00EE. -/
theorem lookup_perm_iff {is : List Instruction} (h : is.Perm instructions) (w : Word) :
    (Table.empty.registerAll is).1.lookup w = table.lookup w ↔
      (w = 0x00E0 → (is.map (·.op)).idxOf .cls < (is.map (·.op)).idxOf .sys) ∧
      (w = 0x00EE → (is.map (·.op)).idxOf .ret < (is.map (·.op)).idxOf .sys) := by
  have hg : (Table.empty.registerAll is).1.Grouped :=
    Table.registerAll_grouped Table.empty_grouped is
  have he : (Table.empty.registerAll is).1.entries = is :=
    Table.registerAll_entries Table.empty is (registerAll_perm h)
  rw [Table.lookup_eq_find? hg, he, Table.lookup_eq_find? table_grouped, table_entries]
  by_cases hcls : w = 0x00E0
  · subst hcls
    rw [find?_perm_iff h .cls (by decide)]
    exact ⟨fun hlt => ⟨fun _ => hlt, fun e => absurd e (by decide)⟩, fun hb => hb.1 rfl⟩
  by_cases hret : w = 0x00EE
  · subst hret
    rw [find?_perm_iff h .ret (by decide)]
    exact ⟨fun hlt => ⟨fun e => absurd e (by decide), fun _ => hlt⟩, fun hb => hb.2 rfl⟩
  · refine iff_of_true (find?_eq_of_perm h ?_) ⟨fun e => absurd e hcls, fun e => absurd e hret⟩
    exact fun i hi j hj hmi hmj => eq_of_matchesWord hi hj hmi hmj hcls hret

/-- **The order of the standard instructions matters in two places only.** All of them are
registered in any order. The table finds what the standard one finds, for every integer, exactly
if `cls` and `ret` both come before `sys`; and only the words 00E0 and 00EE ever tell the two
apart. -/
theorem any_order {is : List Instruction} (h : is.Perm instructions) :
    (Table.empty.registerAll is).2 = none ∧
    ((∀ n : Int, (Table.empty.registerAll is).1.lookup (.ofInt n) = table.lookup (.ofInt n)) ↔
      (is.map (·.op)).idxOf .cls < (is.map (·.op)).idxOf .sys ∧
      (is.map (·.op)).idxOf .ret < (is.map (·.op)).idxOf .sys) ∧
    ∀ n : Int, (Table.empty.registerAll is).1.lookup (.ofInt n) ≠ table.lookup (.ofInt n) →
      n % 0x10000 = 0x00E0 ∨ n % 0x10000 = 0x00EE := by
  refine ⟨registerAll_perm h, ?_, ?_⟩
  · constructor
    · intro hl
      exact ⟨((lookup_perm_iff h _).mp (hl 0x00E0)).1 (by decide),
        ((lookup_perm_iff h _).mp (hl 0x00EE)).2 (by decide)⟩
    · rintro ⟨hcls, hret⟩ n
      exact (lookup_perm_iff h _).mpr ⟨fun _ => hcls, fun _ => hret⟩
  · intro n hne
    by_cases hcls : Word.ofInt n = 0x00E0
    · exact .inl ((Word.ofInt_eq_iff n _).mp hcls)
    by_cases hret : Word.ofInt n = 0x00EE
    · exact .inr ((Word.ofInt_eq_iff n _).mp hret)
    -- At any other word an order makes no difference.
    exact absurd ((lookup_perm_iff h _).mpr
      ⟨fun e => absurd e hcls, fun e => absurd e hret⟩) hne

/-- The other way round, the words 00E0 and 00EE are those of `sys`. -/
theorem any_order_reverse :
    instructions.reverse.Perm instructions ∧
    (Table.empty.registerAll instructions.reverse).2 = none ∧
    ¬∀ n : Int, (Table.empty.registerAll instructions.reverse).1.lookup (.ofInt n) =
      table.lookup (.ofInt n) := by
  have h := any_order (List.reverse_perm instructions)
  refine ⟨List.reverse_perm instructions, h.1, ?_⟩
  intro hl
  exact absurd (h.2.1.mp hl).1 (by decide)

end Standard

end Chip8
