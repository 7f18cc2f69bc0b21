import Chip8.Frontend.Desk
import Chip8.Proofs.Frontend.Observation
import Chip8.Proofs.Frontend.Shell
import Chip8.Proofs.Instruction.Text
import Chip8.Proofs.Machine.History
import Chip8.Proofs.Machine.Reachable
import Chip8.Proofs.Trace

/-!
The trace tells what was executed. Every step of a frame is recorded behind it and nothing
else is (`stepMachine_trace`), with the registers before the step, the word it took and what
it left (`entry_tells`); so a frontend remembers the last of the steps it executed, whatever
keys, timers and debug shells come between them (`trace_faithful`).
-/

namespace Chip8

open Machine (Executed)

/-- What an entry says of a step: the registers before it, the word it took, with its text,
and what it left. -/
structure Trace.Entry.Tells (e : Trace.Entry) (s : Executed) : Prop where
  genuine : s.Genuine
  counter : (e.pc : Int) = s.before.regs.pc
  registers : e.v = s.before.regs.v.toList
  index : (e.i.val : Int) = s.before.regs.i
  delay : (e.dt.toNat : Int) = s.before.regs.dt
  sound : (e.st.toNat : Int) = s.before.regs.st
  word : ∃ w i, s.before.step.events.head? = some (.fetched s.before.regs.pc w i) ∧
    e.word = some w ∧ Standard.table.format w = .ok e.mnemonic
  depth : e.depth = s.after.stack.depth
  awaiting : e.awaiting = s.after.awaiting
  drew : e.drew = s.drew

theorem Word.ofInt_val (w : Word) : Word.ofInt w.val = w := by
  apply Fin.ext
  simp only [ofInt]
  omega

namespace Frontend

def entryOf (s : Executed) : Trace.Entry := entry s.before s.after s.drew

/-- **An entry is true to its step.** -/
theorem entry_tells {s : Executed} (h : s.Genuine) (hr : s.before.InRange) :
    (entryOf s).Tells s where
  genuine := h
  counter := by
    have := hr.regs.counter
    show ((s.before.regs.pc % 0x1000).toNat : Int) = _
    omega
  registers := by
    show (s.before.regs.v.toList.map fun b => (b.toNat : Int)).map UInt8.ofInt = _
    simp [Function.comp_def]
  index := by
    have := hr.regs.index
    show ((Word.ofInt s.before.regs.i).val : Int) = _
    simp only [Word.ofInt]
    omega
  delay := toNat_ofInt hr.regs.delay
  sound := toNat_ofInt hr.regs.sound
  word := by
    refine ⟨_, _, h.fetched, ?_, Standard.format_standard _⟩
    show some (Word.ofInt _) = _
    rw [Word.ofInt_val]
  depth := rfl
  awaiting := rfl
  drew := rfl

theorem recordAll_none (trace : Option Trace) : trace.map (·.recordAll []) = trace := by
  cases trace <;> rfl

/-- **Exactly the steps that were executed are recorded.** -/
theorem stepMachine_trace (f : Frontend) (n : Nat) :
    (f.stepMachine n).1.trace =
      f.trace.map (·.recordAll ((f.machine.executed n).map entryOf)) := by
  induction n generalizing f with
  | zero => exact (recordAll_none f.trace).symm
  | succ n ih =>
    unfold stepMachine
    cases ha : f.machine.awaiting with
    | true => simpa [Machine.executed, ha] using (recordAll_none f.trace).symm
    | false =>
      cases hr : f.machine.step.result with
      | error e =>
        simp only [hr, Machine.executed, ha, Bool.false_eq_true, ↓reduceIte, List.map_nil]
        exact (recordAll_none f.trace).symm
      | ok drew =>
        simp only [hr, Bool.false_eq_true, ↓reduceIte, Machine.executed_succ ha hr n]
        rw [ih]
        show (f.trace.map _).map _ = _
        rw [Option.map_map]
        rfl

/-- The steps that a frame executes. -/
def frameSteps (f : Frontend) : List Executed :=
  match f.stepsDue.2 with
  | .ok n => f.machine.executed n
  | .error _ => []

@[simp] theorem sayTrace_trace (f : Frontend) : f.sayTrace.trace = f.trace := by
  unfold sayTrace
  split <;> rfl

theorem stepFrame_trace (f : Frontend) :
    f.stepFrame.1.trace = f.trace.map (·.recordAll (f.frameSteps.map entryOf)) := by
  have hm : f.stepsDue.1.machine = f.machine := rfl
  have ht : f.stepsDue.1.trace = f.trace := rfl
  unfold stepFrame frameSteps
  generalize f.stepsDue = due at hm ht ⊢
  obtain ⟨g, e | n⟩ := due
  · dsimp only at hm ht ⊢
    rw [ht]
    exact (recordAll_none f.trace).symm
  · have hsteps := g.stepMachine_trace n
    dsimp only at hm ht hsteps ⊢
    rw [hm, ht] at hsteps
    rw [← hsteps]
    obtain ⟨h, e | drew⟩ := g.stepMachine n
    · dsimp only
      split
      · exact sayTrace_trace _
      · rfl
    · rfl

theorem stepFrame_machine (f : Frontend) :
    ∃ ops, f.stepFrame.1.machine = f.machine.applyAll ops := by
  rw [← f.stepFrame_plainFrame.1.machine]
  unfold plainFrame
  cases f.stepsDue.2 with
  | error e => exact ⟨[], rfl⟩
  | ok n =>
    refine ⟨[.run n], ?_⟩
    rw [← Machine.run_eq]
    dsimp only
    split
    · rfl
    · split <;> rfl

/-- Nothing is recorded, and the machine is operated. -/
structure Quiet (f g : Frontend) : Prop where
  trace : g.trace = f.trace
  machine : ∃ ops, g.machine = f.machine.applyAll ops

theorem Says.quiet {f g : Frontend} (h : Says f g) : Quiet f g := by
  obtain ⟨output, rfl⟩ := h
  exact ⟨rfl, [], rfl⟩

theorem tickFrame_quiet (f : Frontend) : Quiet f f.tickFrame.1 := by
  have hd : Quiet f f.ticksDue.1 := ⟨rfl, [], rfl⟩
  unfold tickFrame
  generalize f.ticksDue = due at hd ⊢
  obtain ⟨g, e | n⟩ := due
  · exact hd
  · obtain ⟨ht, ops, hm⟩ := hd
    refine ⟨ht, ops ++ List.replicate n .tick, ?_⟩
    rw [Machine.applyAll_append, ← hm, ← Machine.ticks_eq]

theorem key_quiet (f : Frontend) (name : String) (pressed : Bool) :
    Quiet f (f.key name pressed).1 := by
  obtain ⟨output, h⟩ := f.key_eq name pressed
  rw [h]
  exact ⟨rfl, _, rfl⟩

theorem shell_quiet (f : Frontend) : Quiet f f.shell := ⟨f.shell_trace, _, f.shell_machine⟩

end Frontend

namespace DeskCommand

/-- Whether a command goes through the frontend, and not past it to its machine. -/
def onFrontend : DeskCommand → Bool
  | .machine _ => false
  | _ => true

end DeskCommand

namespace Desk

open Frontend (entryOf)

/-- The steps that a command executes. -/
def executed (d : Desk) : DeskCommand → List Executed
  | .frame => d.frontend.frameSteps
  | _ => []

def performAll (d : Desk) : List DeskCommand → Desk
  | [] => d
  | c :: cs => (d.perform c).1.performAll cs

/-- The steps that commands execute, in order. -/
def executedAll (d : Desk) : List DeskCommand → List Executed
  | [] => []
  | c :: cs => d.executed c ++ (d.perform c).1.executedAll cs

theorem perform_quiet (d : Desk) {c : DeskCommand} (hc : c.onFrontend = true) (hf : c ≠ .frame) :
    Frontend.Quiet d.frontend (d.perform c).1.frontend := by
  obtain ⟨f, saved⟩ := d
  cases c with
  | machine c => cases hc
  | frame => exact absurd rfl hf
  | timers => exact f.tickFrame_quiet
  | budget =>
    have hd : Frontend.Quiet f f.stepsDue.1 := ⟨rfl, [], rfl⟩
    unfold Desk.perform
    dsimp only
    generalize f.stepsDue = due at hd ⊢
    obtain ⟨g, e | n⟩ := due <;> exact hd
  | key name pressed =>
    have hk := f.key_quiet name pressed
    unfold Desk.perform
    dsimp only
    generalize f.key name pressed = r at hk ⊢
    obtain ⟨g, e | b⟩ := r <;> exact hk
  | shell typed =>
    have hs := Frontend.shell_quiet { f with host := { f.host with typed } }
    exact ⟨hs.trace, hs.machine⟩
  | showCpu => exact (f.say_says _).quiet
  | showTrace limit => exact (f.sayLatest_says limit).quiet
  | showMemory argument => exact (f.sayMemory_says argument).quiet

theorem perform_trace (d : Desk) {c : DeskCommand} (hc : c.onFrontend = true) :
    (d.perform c).1.frontend.trace =
      d.frontend.trace.map (·.recordAll ((d.executed c).map entryOf)) := by
  by_cases hf : c = .frame
  · subst hf
    exact d.frontend.stepFrame_trace
  · have hn : d.executed c = [] := by
      cases c with
      | frame => exact absurd rfl hf
      | _ => rfl
    rw [(d.perform_quiet hc hf).trace, hn]
    exact (Frontend.recordAll_none _).symm

theorem perform_machine (d : Desk) {c : DeskCommand} (hc : c.onFrontend = true) :
    ∃ ops, (d.perform c).1.frontend.machine = d.frontend.machine.applyAll ops := by
  by_cases hf : c = .frame
  · subst hf
    exact d.frontend.stepFrame_machine
  · exact (d.perform_quiet hc hf).machine

theorem performAll_trace (d : Desk) {cs : List DeskCommand}
    (hcs : ∀ c ∈ cs, c.onFrontend = true) :
    (d.performAll cs).frontend.trace =
      d.frontend.trace.map (·.recordAll ((d.executedAll cs).map entryOf)) := by
  induction cs generalizing d with
  | nil => exact (Frontend.recordAll_none _).symm
  | cons c cs ih =>
    obtain ⟨hc, hcs⟩ := List.forall_mem_cons.mp hcs
    rw [performAll, ih _ hcs, d.perform_trace hc, Option.map_map, executedAll, List.map_append]
    exact congrArg (fun record => d.frontend.trace.map record)
      (funext fun t => (t.recordAll_append _ _).symm)

theorem executed_genuine (d : Desk) (hd : d.frontend.machine.InRange) {c : DeskCommand}
    {s : Executed} (hs : s ∈ d.executed c) : s.Genuine ∧ s.before.InRange := by
  cases c with
  | frame =>
    show s.Genuine ∧ _
    have hs : s ∈ d.frontend.frameSteps := hs
    unfold Frontend.frameSteps at hs
    split at hs
    · exact Machine.of_mem_executed (fun _ => Machine.InRange.step) hd hs
    · cases hs
  | _ => cases hs

theorem executedAll_genuine (d : Desk) (hd : d.frontend.machine.InRange) {cs : List DeskCommand}
    (hcs : ∀ c ∈ cs, c.onFrontend = true) :
    ∀ s ∈ d.executedAll cs, s.Genuine ∧ s.before.InRange := by
  induction cs generalizing d with
  | nil => simp [executedAll]
  | cons c cs ih =>
    obtain ⟨hc, hcs⟩ := List.forall_mem_cons.mp hcs
    intro s hs
    rcases List.mem_append.mp hs with hs | hs
    · exact d.executed_genuine hd hs
    · obtain ⟨ops, hm⟩ := d.perform_machine hc
      exact ih _ (hm ▸ Machine.inRange_kept.applyAll hd ops) hcs s hs

/-- **A frontend remembers the last steps it executed.** The trace of a frontend that keeps
one holds the last 512 of the steps of its frames, whatever keys, timers and debug shells come
between them, and each entry is true to its step. And any recorder holds the last entries since
it was cleared: as many as fit, with a limit the last of those, and at the end the last one. -/
theorem trace_faithful {program : Array UInt8} {dialect : Dialect} {strict : Bool}
    {entropy : Entropy} {m : Machine}
    (hm : Machine.create program dialect strict entropy = .ok m) {categories : Categories}
    (hk : categories.enabled "trace" = true) (config : Config) (palette : Palette) (host : Host)
    (running : Bool) (saved : List Registers) {cs : List DeskCommand}
    (hcs : ∀ c ∈ cs, c.onFrontend = true) :
    let d := Desk.mk { Frontend.start config categories palette m host with running } saved
    (∃ t, (d.performAll cs).frontend.trace = some t ∧ t.capacity = 512 ∧
      List.Forall₂ Trace.Entry.Tells (t.list none) ((d.executedAll cs).rtake 512)) ∧
    ∀ (capacity : Int) (t : Trace), Trace.create capacity = .ok t → ∀ as,
      (t.actAll as).Shows capacity.toNat (Trace.sinceClear [] as) := by
  intro d
  have hstart : d.frontend.trace = some ⟨Frontend.traceCapacity, []⟩ := if_pos hk
  have hgenuine := d.executedAll_genuine (Machine.Reachable.create hm).inRange hcs
  have htrace := d.performAll_trace hcs
  rw [hstart] at htrace
  generalize d.executedAll cs = steps at hgenuine htrace ⊢
  refine ⟨⟨_, htrace, Trace.recordAll_capacity _ _, ?_⟩, fun capacity t ht => Trace.actAll_shows ht⟩
  have hlist := ((Trace.holds_nil Frontend.traceCapacity).recordAll (steps.map entryOf)).list_none
  rw [Trace.recordAll_capacity, List.nil_append] at hlist
  have hmap : (steps.map entryOf).rtake Frontend.traceCapacity =
      (steps.rtake Frontend.traceCapacity).map entryOf := by
    simp [List.rtake, List.map_drop]
  rw [hlist, hmap, List.forall₂_map_left_iff]
  refine List.forall₂_same.mpr fun s hs => ?_
  obtain ⟨hs, hr⟩ := hgenuine s (List.mem_of_mem_drop hs)
  exact Frontend.entry_tells hs hr

/-- A program that stores over its own first instruction, run for two frames with a key, a
timer and a shell that resets the machine between them. -/
theorem trace_faithful_self_writing :
    let cs : List DeskCommand :=
      [.frame, .key "q" true, .timers, .shell [.line "reset", .line ""], .frame]
    (Categories.enabled ⟨["trace"]⟩ "trace" = true ∧ ∀ c ∈ cs, c.onFrontend = true) ∧
    ∃ m t, Machine.create #[0xA2, 0x00, 0xF0, 0x55] .modern true .closed = .ok m ∧
      let d :=
        Desk.mk { Frontend.start .standard ⟨["trace"]⟩ .mono m .quiet with running := true } []
      (d.performAll cs).frontend.trace = some t ∧
      List.Forall₂ Trace.Entry.Tells (t.list none) ((d.executedAll cs).rtake 512) := by
  intro cs
  have hk : Categories.enabled ⟨["trace"]⟩ "trace" = true := by decide
  have hcs : ∀ c ∈ cs, c.onFrontend = true := by simp [cs, DeskCommand.onFrontend]
  obtain ⟨m, hm, _⟩ := Machine.create_start #[0xA2, 0x00, 0xF0, 0x55] (by decide) (by decide)
    .modern true .closed
  obtain ⟨⟨t, ht, _, htells⟩, _⟩ := trace_faithful hm hk .standard .mono .quiet true [] hcs
  exact ⟨⟨hk, hcs⟩, m, t, hm, ht, htells⟩

end Desk

end Chip8
