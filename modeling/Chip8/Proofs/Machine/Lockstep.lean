import Chip8.Proofs.Machine.Change
import Chip8.Proofs.Machine.KeyWait
import Chip8.Proofs.Machine.Reset

/-!
Two machines side by side. Where a relation between machines is kept by each step, tick,
reset and input, and these answer and report the same on both sides, then so do runs
(`Lockstep.run`) and whole sequences of operations (`Lockstep.outcomes`).
-/

namespace Chip8

/-- Two outcomes of the same answer and the same report, with machines related by `R`. -/
structure Outcome.Matches {α : Type} (R : Machine → Machine → Prop) (o o' : Outcome α) :
    Prop where
  machine : R o.machine o'.machine
  result : o'.result = o.result
  events : o'.events = o.events

namespace Outcome.Matches

variable {R : Machine → Machine → Prop}

theorem silent {o o' : Outcome Unit} (h : o.Matches R o') : o.silent.Matches R o'.silent :=
  ⟨h.machine, congrArg (Except.map fun _ => none) h.result, h.events⟩

theorem answered {o o' : Outcome Bool} (h : o.Matches R o') :
    o.answered.Matches R o'.answered :=
  ⟨h.machine, congrArg (Except.map some) h.result, h.events⟩

theorem done {m m' : Machine} (h : R m m') : (Machine.done m).Matches R (Machine.done m') :=
  ⟨h, rfl, rfl⟩

theorem of_change {α : Type} {o o' : Outcome α} {c : Change} (h : o' = o.change c)
    (hR : R o.machine (o.machine.change c)) : o.Matches R o' := by
  subst h
  exact ⟨hR, rfl, rfl⟩

theorem eq_map_change {α : Type} {c : Change} {os os' : List (Outcome α)}
    (h : List.Forall₂ (Outcome.Matches fun m m' => m' = m.change c) os os') :
    os' = os.map (·.change c) := by
  induction h with
  | nil => rfl
  | @cons o o' _ _ ho _ ih =>
    obtain ⟨machine, result, events⟩ := o'
    obtain ⟨hm, hr, he⟩ := ho
    subst hm hr he
    rw [ih]
    rfl

end Outcome.Matches

namespace Machine

/-- Machines of which the first has `I` and that are related by `R` stay so, and say the
same: at steps that execute words with `p` only, and at ticks and resets where `q` is told
of them. -/
structure Lockstep (I : Machine → Prop) (R : Machine → Machine → Prop) (p : Word → Bool)
    (q : Operation → Bool) : Prop where
  kept : Kept I
  awaiting : ∀ m m', R m m' → m'.awaiting = m.awaiting
  step : ∀ m m', I m → R m m' → (∀ w, .executed w ∈ m.stepMoments → p w = true) →
    m.step.Matches R m'.step
  tick : q .tick = true → ∀ m m', R m m' → R m.tick m'.tick
  reset : q .reset = true → ∀ m m', R m m' → m.reset.Matches R m'.reset
  input : ∀ m m' op, op.isInput = true → R m m' → (m.apply op).Matches R (m'.apply op)

namespace Lockstep

variable {I : Machine → Prop} {R : Machine → Machine → Prop} {p : Word → Bool}
  {q : Operation → Bool} {m m' : Machine}

theorem run (l : Lockstep I R p q) (hi : I m) (h : R m m') {n : Nat}
    (hp : ∀ w, .executed w ∈ m.runMoments n → p w = true) : (m.run n).Matches R (m'.run n) := by
  induction n generalizing m m' with
  | zero => exact ⟨h, rfl, rfl⟩
  | succ n ih =>
    have ha := l.awaiting m m' h
    have hs := l.step m m' hi h fun w hw => hp w (List.mem_append_left _ hw)
    unfold Machine.run
    rw [ha]
    cases hw : m.awaiting with
    | true => exact ⟨h, rfl, rfl⟩
    | false =>
      simp only [Bool.false_eq_true, ↓reduceIte, hs.result]
      cases hr : m.step.result with
      | error f => exact ⟨hs.machine, rfl, hs.events⟩
      | ok drew =>
        have hrest := ih (l.kept.step m hi) hs.machine fun w hw => hp w (by
          rw [runMoments, hr]
          exact List.mem_append_right _ hw)
        exact ⟨hrest.machine, congrArg (Except.map (drew || ·)) hrest.result,
          by rw [hs.events, hrest.events]⟩

theorem apply (l : Lockstep I R p q) (hi : I m) (h : R m m') {op : Operation}
    (hq : q op = true) (hp : ∀ w, .executed w ∈ m.moments op → p w = true) :
    (m.apply op).Matches R (m'.apply op) := by
  cases op with
  | step => exact (l.step m m' hi h hp).answered
  | run n => exact (l.run hi h hp).answered
  | tick => exact ⟨l.tick hq m m' h, rfl, rfl⟩
  | reset => exact (l.reset hq m m' h).silent
  | _ => exact l.input m m' _ rfl h

/-- **Sequences of operations go on side by side.** -/
theorem outcomes (l : Lockstep I R p q) (hi : I m) (h : R m m') {ops : List Operation}
    (hq : ∀ op ∈ ops, q op = true) (hp : ∀ w, .executed w ∈ m.history ops → p w = true) :
    List.Forall₂ (Outcome.Matches R) (m.outcomes ops) (m'.outcomes ops) := by
  induction ops generalizing m m' with
  | nil => exact .nil
  | cons op ops ih =>
    have ho := l.apply hi h (hq op List.mem_cons_self) fun w hw =>
      hp w (List.mem_append_left _ hw)
    refine .cons ho (ih (l.kept.apply hi op) ho.machine ?_ ?_)
    · intro op' ho'
      exact hq op' (List.mem_cons_of_mem _ ho')
    · intro w hw
      exact hp w (List.mem_append_right _ hw)

theorem applyAll (l : Lockstep I R p q) (hi : I m) (h : R m m') {ops : List Operation}
    (hq : ∀ op ∈ ops, q op = true) (hp : ∀ w, .executed w ∈ m.history ops → p w = true) :
    R (m.applyAll ops) (m'.applyAll ops) := by
  induction ops generalizing m m' with
  | nil => exact h
  | cons op ops ih =>
    have ho := l.apply hi h (hq op List.mem_cons_self) fun w hw =>
      hp w (List.mem_append_left _ hw)
    refine ih (l.kept.apply hi op) ho.machine ?_ ?_
    · intro op' ho'
      exact hq op' (List.mem_cons_of_mem _ ho')
    · intro w hw
      exact hp w (List.mem_append_right _ hw)

end Lockstep

end Machine

end Chip8
