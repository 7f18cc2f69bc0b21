/-!
Lists that are searched or read beyond their end, lists made of blocks of one length, and vectors
with one place changed.
-/

namespace Chip8

variable {α : Type}

/-- A filter that keeps what is looked for does not change what is found. -/
theorem find?_filter_of_imp {p q : α → Bool} {l : List α}
    (h : ∀ a ∈ l, q a = true → p a = true) : (l.filter p).find? q = l.find? q := by
  induction l with
  | nil => rfl
  | cons a l ih =>
    have ih := ih fun b hb => h b (List.mem_cons_of_mem _ hb)
    cases hp : p a with
    | true => rw [List.filter_cons_of_pos hp, List.find?_cons, List.find?_cons, ih]
    | false =>
      have hq : q a = false := by
        rw [Bool.eq_false_iff]
        intro hq
        rw [h a List.mem_cons_self hq] at hp
        cases hp
      rw [List.filter_cons_of_neg (by simp [hp]), List.find?_cons_of_neg (by simp [hq]), ih]

/-- A member that is looked for is found if nothing before it is. -/
theorem find?_eq_some_of_pairwise {R : α → α → Prop} {p : α → Bool} {l : List α}
    (hl : l.Pairwise R) {a : α} (ha : a ∈ l) (hp : p a = true)
    (hR : ∀ b, R b a → p b = false) : l.find? p = some a := by
  induction hl with
  | nil => cases ha
  | @cons b l hb _ ih =>
    rcases List.mem_cons.mp ha with rfl | ha
    · rw [List.find?_cons_of_pos hp]
    · have hn := hR b (hb a ha)
      rw [List.find?_cons_of_neg (by simp [hn])]
      exact ih ha

/-- What is alone in being looked for is found in any order. -/
theorem find?_eq_of_perm {l l' : List α} {p : α → Bool} (h : l'.Perm l)
    (hp : ∀ a ∈ l, ∀ b ∈ l, p a = true → p b = true → a = b) : l'.find? p = l.find? p := by
  cases hf : l.find? p with
  | none =>
    rw [List.find?_eq_none] at hf ⊢
    exact fun a ha => hf a (h.mem_iff.mp ha)
  | some a =>
    cases hf' : l'.find? p with
    | none =>
      have ha := h.mem_iff.mpr (List.mem_of_find?_eq_some hf)
      exact absurd (List.find?_some hf) (List.find?_eq_none.mp hf' a ha)
    | some b =>
      have hb := h.mem_iff.mp (List.mem_of_find?_eq_some hf')
      rw [hp b hb a (List.mem_of_find?_eq_some hf) (List.find?_some hf') (List.find?_some hf)]

theorem map_getD_range (l : List α) (d : α) (n : Nat) :
    (List.range (l.length + n)).map (fun k => l.getD k d) = l ++ List.replicate n d := by
  apply List.ext_getElem
  · simp
  · intro k _ _
    by_cases hk : k < l.length
    · simp [List.getElem_append_left hk, List.getD_eq_getElem?_getD, hk]
    · simp [List.getElem_append_right (Nat.le_of_not_lt hk), List.getD_eq_getElem?_getD,
        List.getElem?_eq_none (Nat.le_of_not_lt hk)]

/-! ## Blocks of one length, one behind the other -/

section

variable {β : Type} {f : α → List β} {l : List α} {n : Nat}

theorem length_flatMap_of_length (hf : ∀ a ∈ l, (f a).length = n) :
    (l.flatMap f).length = n * l.length := by
  induction l with
  | nil => rfl
  | cons a l ih =>
    have ha := hf a List.mem_cons_self
    have ih := ih fun b hb => hf b (List.mem_cons_of_mem a hb)
    rw [List.flatMap_cons, List.length_append, ha, ih, List.length_cons, Nat.mul_succ,
      Nat.add_comm]

end

@[simp] theorem get_set {n : Nat} (v : Vector α n) (k j : Fin n) (a : α) :
    (v.set k a k.isLt).get j = if k = j then a else v.get j := by
  show (v.set k a k.isLt)[j.val] = if k = j then a else v[j.val]
  rw [Vector.getElem_set]
  simp only [Fin.ext_iff]

end Chip8
