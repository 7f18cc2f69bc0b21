import Chip8.Proofs.Machine.Reachable

/-!
Calls and returns. Nothing but a call or a return touches the call stack
(`apply_stack`). So from a call on, the addresses below and the one behind the
call stay where they are as long as the stack is deeper than before; and what
first brings it back to its depth is the return to that address (`call_return`).
-/

namespace Chip8

/-- At most one instruction at a time, and no reset. -/
def Operation.isSingle : Operation → Bool
  | .step | .tick | .keyDown _ | .keyUp _ => true
  | _ => false

namespace Machine

/-- The address behind the word under the program counter. -/
def returnAddress (m : Machine) : Word := .ofInt ((m.regs.pc + 2) % 0x1000)

theorem returnAddress_val (m : Machine) :
    (m.returnAddress.val : Int) = (m.regs.pc + 2) % 0x1000 := by
  simp only [returnAddress, Word.ofInt]
  omega

/-- What a step makes of the call stack. -/
inductive StackStep (m : Machine) : Prop
  | kept : m.step.machine.stack = m.stack → StackStep m
  | called : m.step.machine.stack.entries = m.returnAddress :: m.stack.entries → StackStep m
  | returned {a : Word} : m.awaiting = false → m.fetch = 0x00EE → m.step.result = .ok false →
      m.stack.entries = a :: m.step.machine.stack.entries →
      m.step.machine.regs.pc = a.val → StackStep m

theorem Executes.stack_eq {m m' : Machine} {w : Word} {op : Op} (h : Executes m w op m')
    (hc : op ≠ .call) (hr : op ≠ .ret) : m'.stack = m.stack := by
  cases h with
  | registers h | screen _ _ h | random h | store _ _ h => rw [h.same]
  | await => rfl
  | call => exact absurd rfl hc
  | ret => exact absurd rfl hr

theorem stackStep_of_call {m : Machine} (ha : m.awaiting = false) {i : Instruction}
    (hl : m.table.lookup m.fetch = some i) (ho : i.op = .call)
    (hd : m.stack.depth < m.stack.capacity) :
    m.step.machine.stack.entries = m.returnAddress :: m.stack.entries := by
  have hp : m.stack.push m.advance.regs.pc =
      .ok { m.stack with entries := m.returnAddress :: m.stack.entries } :=
    CallStack.push_ok_iff.mpr ⟨hd, rfl⟩
  simp [step, ha, hl, ho, perform, execute, call, hp]

theorem stackStep_of_ret {m : Machine} (ha : m.awaiting = false) {i : Instruction}
    (hl : m.table.lookup m.fetch = some i) (ho : i.op = .ret) {a : Word} {rest : List Word}
    (he : m.stack.entries = a :: rest) :
    m.step.result = .ok false ∧ m.step.machine.stack.entries = rest ∧
      m.step.machine.regs.pc = a.val := by
  have hp : m.stack.pop = .ok (a, { m.stack with entries := rest }) :=
    CallStack.pop_ok_iff.mpr ⟨rest, he, rfl⟩
  simp [step, ha, hl, ho, perform, execute, ret, hp]

theorem InRange.stackStep {m : Machine} (h : m.InRange) : m.StackStep := by
  have hs := step_steps m
  generalize hm : m.step.machine = m', m.step.result = r at hs
  cases hs with
  | waiting | illegal | undone => exact .kept (by rw [hm])
  | skipped => exact .kept (by rw [hm]; rfl)
  | @broken i f _ hl hr hf =>
    have he := execute_executes m.advance i.op m.fetch
    rcases op_of_not_isStack hr hf with e | e <;>
      exact .kept (by rw [hm]; exact he.stack_eq (by simp [e]) (by simp [e]))
  | @executed i drew ha hl hr =>
    have he := execute_executes m.advance i.op m.fetch
    by_cases hc : i.op = .call
    · refine .called (stackStep_of_call ha hl hc ?_)
      -- Otherwise the push would have failed.
      apply Decidable.byContradiction
      intro hd
      have hf := (execute_error_iff m.advance i.op m.fetch _).mpr
        (Or.inl ⟨hc, (CallStack.push_error_iff _ _ _).mpr ⟨Nat.le_of_not_lt hd, rfl⟩⟩)
      rw [hr] at hf
      cases hf
    · by_cases hret : i.op = .ret
      · cases hes : m.stack.entries with
        | nil =>
          have hf := (execute_error_iff m.advance i.op m.fetch _).mpr
            (Or.inr (Or.inl ⟨hret, (CallStack.pop_error_iff _ _).mpr ⟨hes, rfl⟩⟩))
          rw [hr] at hf
          cases hf
        | cons a rest =>
          obtain ⟨hok, hrest, hpc⟩ := stackStep_of_ret ha hl hret hes
          have hw := (Standard.op?_eq_ret_iff _).mp (hret ▸ h.op?_eq hl)
          exact .returned ha hw hok (by rw [hes, hrest]) hpc
      · exact .kept (by rw [hm]; exact he.stack_eq hc hret)

@[simp] theorem key_stack (m : Machine) (i : Int) (pressed : Bool) :
    (m.key i pressed).machine.stack = m.stack := by
  unfold key
  cases Keypad.index i with
  | error f => rfl
  | ok i =>
    simp only [setKey, keyEdge]
    split <;> rfl

/-- **Only a step moves the call stack.** -/
theorem apply_stack (m : Machine) {op : Operation} (ho : op.isSingle = true) :
    op = .step ∨ (m.apply op).machine.stack = m.stack := by
  cases op with
  | step => exact Or.inl rfl
  | tick => exact Or.inr rfl
  | keyDown i => exact Or.inr (key_stack m i true)
  | keyUp i => exact Or.inr (key_stack m i false)
  | _ => cases ho

/-- Between steps it stays as it is. -/
theorem applyAll_stack {ops : List Operation}
    (ho : ∀ op ∈ ops, op.isSingle = true ∧ op ≠ .step) (m : Machine) :
    (m.applyAll ops).stack = m.stack := by
  induction ops generalizing m with
  | nil => rfl
  | cons op ops ih =>
    obtain ⟨⟨hsingle, hstep⟩, hops⟩ := List.forall_mem_cons.mp ho
    rw [applyAll, ih hops]
    exact (apply_stack m hsingle).resolve_left hstep

/-- `t` is inside the subroutine that `s` calls. -/
def Inside (s t : Machine) : Prop :=
  ∃ inner, t.stack.entries = inner ++ s.returnAddress :: s.stack.entries

theorem Inside.depth_lt {s t : Machine} (h : Inside s t) : s.stack.depth < t.stack.depth := by
  obtain ⟨inner, he⟩ := h
  simp only [CallStack.depth, he, List.length_append, List.length_cons]
  omega

/-- `op` brings `t` back behind the call of `s`. -/
structure Returns (s t : Machine) (op : Operation) : Prop where
  isStep : op = .step
  running : t.awaiting = false
  word : t.fetch = 0x00EE
  executed : t.step.result = .ok false
  stack : (t.apply op).machine.stack = s.stack
  counter : (t.apply op).machine.regs.pc = (s.regs.pc + 2) % 0x1000

/-- One operation leads on inside the subroutine, or out of it by a return. -/
theorem Inside.apply {s t : Machine} (h : Inside s t) (hs : s.InRange) (ht : t.InRange)
    {op : Operation} (ho : op.isSingle = true) :
    Inside s (t.apply op).machine ∨ Returns s t op := by
  obtain ⟨inner, he⟩ := h
  rcases apply_stack t ho with rfl | hk
  · cases ht.stackStep with
    | kept hk =>
      refine Or.inl ⟨inner, ?_⟩
      show t.step.machine.stack.entries = _
      rw [hk, he]
    | called hk =>
      refine Or.inl ⟨t.returnAddress :: inner, ?_⟩
      show t.step.machine.stack.entries = _
      rw [hk, he]
      rfl
    | returned ha hw hr hk hpc =>
      rw [he] at hk
      cases inner with
      | cons b inner => exact Or.inl ⟨inner, (List.cons.inj hk).2.symm⟩
      | nil =>
        obtain ⟨rfl, hrest⟩ := List.cons.inj hk
        refine Or.inr ⟨rfl, ha, hw, hr, ?_, ?_⟩
        · have hcap : t.step.machine.stack.capacity = s.stack.capacity := by
            rw [ht.step.capacity, hs.capacity]
          show t.step.machine.stack = s.stack
          cases hts : t.step.machine.stack
          cases hss : s.stack
          simp_all
        · rw [← returnAddress_val]
          exact hpc
  · refine Or.inl ⟨inner, ?_⟩
    rw [hk, he]

/-- The whole way, as long as the stack has not come back to its depth. -/
theorem Inside.applyAll {s t : Machine} (h : Inside s t) (hs : s.InRange) (ht : t.InRange)
    {ops : List Operation} (ho : ∀ op ∈ ops, op.isSingle = true)
    (hd : ∀ p, p <+: ops → (t.applyAll p).stack.depth ≠ s.stack.depth) :
    Inside s (t.applyAll ops) := by
  induction ops generalizing t with
  | nil => exact h
  | cons op ops ih =>
    rcases h.apply hs ht (ho op List.mem_cons_self) with hi | hr
    · apply ih hi (inRange_kept.apply ht op) (fun o hm => ho o (List.mem_cons_of_mem _ hm))
      intro p hp
      exact hd (op :: p) (List.cons_prefix_cons.mpr ⟨rfl, hp⟩)
    · refine absurd ?_ (hd [op] ⟨ops, rfl⟩)
      show (t.apply op).machine.stack.depth = _
      rw [hr.stack]

theorem inside_of_call {s : Machine} (hs : s.InRange) (ha : s.awaiting = false)
    (hw : s.fetch.group = 2) (hd : s.stack.depth < 16) : Inside s s.step.machine := by
  obtain ⟨i, hl, ho⟩ := hs.lookup_of_op? ((Standard.op?_eq_call_iff _).mpr hw)
  have hcap := hs.capacity
  exact ⟨[], stackStep_of_call ha hl ho (by omega)⟩

/-- **Calls and returns are bracketed.** After a call, and until the stack is as
deep as before it, the addresses of the caller and the one behind the call are
the lowest; the operation that first brings the stack back to its depth is a
step that executes `00EE`, and it leads to the caller's stack and behind the
call, whatever happened in between. -/
theorem call_return {s : Machine} (hs : Reachable s) (ha : s.awaiting = false)
    (hw : s.fetch.group = 2) (hd : s.stack.depth < 16)
    (ops : List Operation) (ho : ∀ op ∈ ops, op.isSingle = true)
    (hdeep : ∀ p, p <+: ops → (s.applyAll (.step :: p)).stack.depth ≠ s.stack.depth) :
    (s.stack.depth < (s.applyAll (.step :: ops)).stack.depth ∧
      (s.applyAll (.step :: ops)).stack.toList.take s.stack.depth = s.stack.toList ∧
      ∃ a, (s.applyAll (.step :: ops)).stack.toList[s.stack.depth]? = some a ∧
        (a.val : Int) = (s.regs.pc + 2) % 0x1000) ∧
    ∀ op, op.isSingle = true →
      ((s.applyAll (.step :: ops)).apply op).machine.stack.depth = s.stack.depth →
      Returns s (s.applyAll (.step :: ops)) op := by
  have hr := hs.inRange
  have hin : Inside s (s.applyAll (.step :: ops)) :=
    (inside_of_call hr ha hw hd).applyAll hr hr.step ho hdeep
  have ht : (s.applyAll (.step :: ops)).InRange := inRange_kept.applyAll hr _
  generalize s.applyAll (.step :: ops) = t at hin ht
  refine ⟨⟨hin.depth_lt, ?_⟩, ?_⟩
  · obtain ⟨inner, he⟩ := hin
    simp only [CallStack.toList, CallStack.depth, he, List.reverse_append, List.reverse_cons,
      List.append_assoc]
    refine ⟨?_, s.returnAddress, ?_, s.returnAddress_val⟩
    · exact List.take_left' (List.length_reverse ..)
    · rw [List.getElem?_append_right (by simp)]
      simp
  · intro op hop hback
    rcases hin.apply hr ht hop with hi | hret
    · exact absurd hback (Nat.ne_of_gt hi.depth_lt)
    · exact hret

/-- A call, a tick and a key in the subroutine, and the return that ends it. -/
theorem call_return_first_call :
    ∃ s, create #[0x22, 0x04, 0x00, 0x00, 0x00, 0xEE] .modern false .closed = .ok s ∧
      s.awaiting = false ∧ s.fetch.group = 2 ∧ s.stack.depth = 0 ∧
      (∃ a, (s.applyAll [.step, .tick, .keyDown 5]).stack.toList[0]? = some a ∧
        (a.val : Int) = 0x202) ∧
      Returns s (s.applyAll [.step, .tick, .keyDown 5]) .step ∧
      (s.applyAll [.step, .tick, .keyDown 5, .step]).stack.depth = 0 ∧
      (s.applyAll [.step, .tick, .keyDown 5, .step]).regs.pc = 0x202 := by
  have hsize : #[0x22, 0x04, 0x00, 0x00, 0x00, 0xEE].size ≤ programCapacity := by decide
  obtain ⟨memory, hl, hc⟩ :=
    create_eq #[0x22, 0x04, 0x00, 0x00, 0x00, 0xEE] hsize .modern false .closed
  have hm := powerOn_inRange hsize hl .modern false .closed
  have hcall := readWord_of_load hl (k := 0) (by decide) hsize
  have hret := readWord_of_load hl (k := 4) (by decide) hsize
  generalize hs : powerOn memory _ .modern false .closed = s at hc hm
  have ha : s.awaiting = false := by rw [← hs]; rfl
  have hf : s.fetch = 0x2204 := by rw [← hs]; exact hcall
  have hw : s.fetch.group = 2 := by rw [hf]; rfl
  have hd : s.stack.depth = 0 := by rw [← hs]; rfl
  have hpc : s.regs.pc = 0x200 := by rw [← hs]; rfl
  have hin := inside_of_call hm ha hw (by omega)
  have hquiet : ∀ op ∈ [Operation.tick, .keyDown 5], op.isSingle = true ∧ op ≠ .step := by
    simp [Operation.isSingle]
  have hdeep : ∀ p, p <+: [.tick, .keyDown 5] →
      (s.applyAll (.step :: p)).stack.depth ≠ s.stack.depth := by
    intro p hp
    have hstack : (s.applyAll (.step :: p)).stack = s.step.machine.stack :=
      applyAll_stack (fun op hop => hquiet op (hp.subset hop)) s.step.machine
    rw [hstack]
    exact Nat.ne_of_gt hin.depth_lt
  obtain ⟨⟨_, _, a, hat, hval⟩, hback⟩ := call_return (.create hc) ha hw (by omega)
    [.tick, .keyDown 5] (fun op hop => (hquiet op hop).1) hdeep
  -- The machine in the subroutine is about to execute the return.
  have hstep : s.step.machine = (s.advance.execute .call 0x2204).machine.counted := by
    have hx : (s.advance.execute .call s.fetch).result = .ok false := by rw [hf, ← hs]; rfl
    rw [(hm.step_of_fits ha .call (by decide) hw hx).2, hf]
  have hafter : (s.applyAll [.step, .tick, .keyDown 5, .step]).stack.depth = 0 := by
    show (s.applyAll [.step, .tick, .keyDown 5]).step.machine.stack.entries.length = 0
    have ht : (s.applyAll [.step, .tick, .keyDown 5]).InRange := inRange_kept.applyAll hm _
    have he : (s.applyAll [.step, .tick, .keyDown 5]) =
        (s.step.machine.tick.key 5 true).machine := rfl
    rw [he, hstep, ← hs] at ht ⊢
    have hret' : Standard.op? _ = some .ret := (Standard.op?_eq_ret_iff _).mpr hret
    obtain ⟨i, hlookup, ho⟩ := ht.lookup_of_op? hret'
    rw [(stackStep_of_ret rfl hlookup ho rfl).2.1]
    rfl
  have hreturns := hback .step rfl (hafter.trans hd.symm)
  refine ⟨s, hc, ha, hw, hd, ⟨a, ?_, ?_⟩, hreturns, hafter, ?_⟩
  · rw [hd] at hat
    exact hat
  · rw [hval, hpc]
    rfl
  · exact hreturns.counter.trans (by rw [hpc]; rfl)

end Machine

end Chip8
