import Chip8.CallStack

/-!
When the call stack takes an address and gives one back, and what is then left.
-/

namespace Chip8

namespace CallStack

variable {s s' : CallStack}

theorem push_ok_iff {a : Int} :
    s.push a = .ok s' ↔
      s.depth < s.capacity ∧ s' = { s with entries := .ofInt a :: s.entries } := by
  unfold push
  split <;> rename_i h
  · simp [Nat.not_lt.mpr h]
  · simp [Nat.lt_of_not_le h, eq_comm]

theorem push_error_iff (s : CallStack) (a : Int) (f : Fault) :
    s.push a = .error f ↔ s.capacity ≤ s.depth ∧ f = .stackOverflow s.depth s.capacity := by
  unfold push
  split <;> rename_i h
  · simp [h, eq_comm]
  · simp [h]

theorem pop_ok_iff {a : Word} :
    s.pop = .ok (a, s') ↔ ∃ rest, s.entries = a :: rest ∧ s' = { s with entries := rest } := by
  unfold pop
  split <;> rename_i h
  · simp [h]
  · rename_i b rest
    rw [h]
    constructor
    · intro e
      cases e
      exact ⟨rest, rfl, rfl⟩
    · rintro ⟨_, e, rfl⟩
      cases e
      rfl

theorem pop_error_iff (s : CallStack) (f : Fault) :
    s.pop = .error f ↔ s.entries = [] ∧ f = .stackUnderflow := by
  unfold pop
  split <;> rename_i h
  · simp [h, eq_comm]
  · simp [h]

/-- Calls and returns leave the capacity alone. -/
theorem push_capacity {a : Int} (h : s.push a = .ok s') : s'.capacity = s.capacity := by
  rw [(push_ok_iff.mp h).2]

theorem pop_capacity {a : Word} (h : s.pop = .ok (a, s')) : s'.capacity = s.capacity := by
  obtain ⟨_, _, rfl⟩ := pop_ok_iff.mp h
  rfl

end CallStack

end Chip8
