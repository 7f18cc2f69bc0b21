import Chip8.Frontend.Loop
import Chip8.Proofs.Frontend.Frame

/-!
What the events of a frame come to. The debug shell does nothing to a frontend but reset the
machine, stop the frontend and print (`shell_eq`), so the events of a frame are operations on
the machine, told from the events and the lines typed alone (`events_eq`).
-/

namespace Chip8

namespace ShellCommand

/-- Whether the shell closes behind the command. -/
def closes : ShellCommand → Bool
  | .resume | .quit => true
  | _ => false

/-- What a command does to the machine. -/
def operations : ShellCommand → List Operation
  | .reset => [.reset]
  | _ => []

theorem ne_quit_of_stays (c : ShellCommand) (h : c.closes = false) :
    (ShellCommand.quit == c) = false := by
  cases c with
  | quit => cases h
  | _ => rfl

end ShellCommand

namespace Typed

/-- The commands that a shell takes from what is typed. -/
def commands : List Typed → List ShellCommand
  | [] => []
  | .broken :: _ => []
  | .line s :: rest =>
    let c := ShellCommand.read s
    c :: if c.closes then [] else commands rest

/-- What a shell leaves of what is typed. -/
def unread : List Typed → List Typed
  | [] => []
  | .broken :: rest => rest
  | .line s :: rest => if (ShellCommand.read s).closes then rest else unread rest

variable {s : String}

theorem commands_line_closes (h : (ShellCommand.read s).closes = true) (rest : List Typed) :
    commands (.line s :: rest) = [ShellCommand.read s] := by simp [commands, h]

theorem commands_line_stays (h : (ShellCommand.read s).closes = false) (rest : List Typed) :
    commands (.line s :: rest) = ShellCommand.read s :: commands rest := by simp [commands, h]

theorem unread_line_closes (h : (ShellCommand.read s).closes = true) (rest : List Typed) :
    unread (.line s :: rest) = rest := by simp [unread, h]

theorem unread_line_stays (h : (ShellCommand.read s).closes = false) (rest : List Typed) :
    unread (.line s :: rest) = unread rest := by simp [unread, h]

end Typed

/-- What comes in at a frontend: whether it runs, and what will be typed. -/
structure Inbox where
  running : Bool
  typed : List Typed

namespace Inbox

/-- The commands of the shell that an event opens. A frontend that has stopped hears none. -/
def heard (b : Inbox) : HostEvent → List ShellCommand
  | .down name =>
    if name = Frontend.escapeKey ∧ b.running = true then Typed.commands b.typed else []
  | _ => []

/-- Whether an event stops the frontend. -/
def quits (b : Inbox) (e : HostEvent) : Bool := e = .quit || (b.heard e).contains .quit

def next (b : Inbox) (e : HostEvent) : Inbox where
  running := b.running && !b.quits e
  typed :=
    if e = .down Frontend.escapeKey ∧ b.running = true then Typed.unread b.typed else b.typed

end Inbox

/-- The key of the machine that a host key stands for, down or up; none, and nothing happens. -/
def Keypad.edges (name : String) (pressed : Bool) : List Operation :=
  (Keypad.ofName? name).toList.map fun i => if pressed then .keyDown i.val else .keyUp i.val

namespace Inbox

/-- What an event does to the machine. -/
def operations (b : Inbox) (e : HostEvent) : List Operation :=
  match e with
  | .down name =>
    if name = Frontend.escapeKey then (b.heard e).flatMap ShellCommand.operations
    else Keypad.edges name true
  | .up name => Keypad.edges name false
  | .quit | .other => []

/-- What events do to the machine, one after the other. -/
def operationsOf (b : Inbox) : List HostEvent → List Operation
  | [] => []
  | e :: es => b.operations e ++ (b.next e).operationsOf es

/-- Whether one of the events stops the frontend. -/
def quitsOn (b : Inbox) : List HostEvent → Bool
  | [] => false
  | e :: es => b.quits e || (b.next e).quitsOn es

def after (b : Inbox) (es : List HostEvent) : Inbox := es.foldl next b

variable {b : Inbox}

/-- A shell that is opened where nothing runs closes at once. -/
theorem operations_of_stopped (h : b.running = false) :
    b.operations (.down Frontend.escapeKey) = [] := by
  simp [operations, heard, h]

theorem next_of_stopped (h : b.running = false) : b.next (.down Frontend.escapeKey) = b := by
  simp only [next, h, Bool.false_and, Bool.false_eq_true, and_false, ↓reduceIte]
  rw [← h]

theorem operations_of_running (h : b.running = true) :
    b.operations (.down Frontend.escapeKey) =
      (Typed.commands b.typed).flatMap ShellCommand.operations := by
  simp [operations, heard, h]

theorem next_of_running (h : b.running = true) :
    b.next (.down Frontend.escapeKey) =
      ⟨!(Typed.commands b.typed).contains .quit, Typed.unread b.typed⟩ := by
  simp [next, quits, heard, h]

theorem heard_of_ne {e : HostEvent} (h : e ≠ .down Frontend.escapeKey) : b.heard e = [] := by
  cases e with
  | down name => exact if_neg fun hname => h (congrArg HostEvent.down hname.1)
  | _ => rfl

/-- Keys come in and change nothing else. -/
theorem next_of_ne {e : HostEvent} (h : e ≠ .down Frontend.escapeKey) (hq : e ≠ .quit) :
    b.next e = b := by
  simp [next, quits, heard_of_ne h, h, hq]

@[simp] theorem next_quit (b : Inbox) : b.next .quit = ⟨false, b.typed⟩ := by simp [next, quits]

theorem after_running (b : Inbox) (es : List HostEvent) :
    (b.after es).running = (b.running && !b.quitsOn es) := by
  induction es generalizing b with
  | nil => simp [after, quitsOn]
  | cons e es ih =>
    show ((b.next e).after es).running = _
    rw [ih, quitsOn, Bool.not_or, ← Bool.and_assoc]
    rfl

end Inbox

namespace Machine

theorem applyAll_append (m : Machine) (ops ops' : List Operation) :
    m.applyAll (ops ++ ops') = (m.applyAll ops).applyAll ops' := by
  induction ops generalizing m with
  | nil => rfl
  | cons op ops ih => exact ih (m.apply op).machine

theorem ticks_eq (m : Machine) (n : Nat) : m.ticks n = m.applyAll (List.replicate n .tick) := by
  induction n generalizing m with
  | zero => rfl
  | succ n ih => exact ih m.tick

theorem run_eq (m : Machine) (n : Nat) : (m.run n).machine = m.applyAll [.run n] := rfl

theorem namedKey_machine (m : Machine) (name : String) (pressed : Bool) :
    (m.namedKey name pressed).machine = m.applyAll (Keypad.edges name pressed) := by
  unfold namedKey Keypad.edges
  cases Keypad.ofName? name with
  | none => rfl
  | some i =>
    have hi : Keypad.index i.val = .ok i := dif_pos ⟨by omega, by omega⟩
    cases pressed <;> simp [applyAll, apply, keyDown, keyUp, key, hi, Outcome.silent]

end Machine

namespace Frontend

def inbox (f : Frontend) : Inbox := ⟨f.running, f.host.typed⟩

/-- Nothing but printing. -/
def Says (f g : Frontend) : Prop := ∃ output, g = { f with output }

theorem Says.refl (f : Frontend) : Says f f := ⟨f.output, rfl⟩

theorem say_says (f : Frontend) (s : String) : Says f (f.say s) := ⟨_, rfl⟩

theorem sayLatest_says (f : Frontend) (limit : Option Int) : Says f (f.sayLatest limit) := by
  unfold sayLatest
  split
  · exact f.say_says _
  · dsimp only
    split <;> exact f.say_says _

theorem sayMemory_says (f : Frontend) (argument : String) : Says f (f.sayMemory argument).1 := by
  unfold sayMemory
  split
  · exact .refl f
  · exact f.say_says _
  · split <;> exact f.say_says _

/-- What a command of the shell does to a running frontend. -/
theorem shellCommand_eq {f : Frontend} (hf : f.running = true) (c : ShellCommand) :
    ∃ output, f.shellCommand c =
      ({ f with
          machine := f.machine.applyAll c.operations
          running := !(ShellCommand.quit == c)
          output }, !c.closes) := by
  have stays (g : Frontend) (b : Bool) (hg : Says f g) :
      ∃ output, (g, b) = ({ f with running := true, output }, b) := by
    obtain ⟨output, rfl⟩ := hg
    exact ⟨output, by rw [← hf]⟩
  cases c with
  | resume => exact stays f false (.refl f)
  | cpu => exact stays f.sayCpu true (f.say_says _)
  | screen => exact stays (f.sayLine _) true (f.say_says _)
  | trace => exact stays (f.sayLatest _) true (f.sayLatest_says _)
  | reset => exact ⟨_, by rw [show (!ShellCommand.quit == .reset) = f.running from hf.symm]; rfl⟩
  | memory a => exact stays (f.sayMemory a).1 true (f.sayMemory_says a)
  | quit => exact ⟨_, rfl⟩
  | unknown => exact stays (f.sayLine _) true (f.say_says _)

theorem leaveShell_eq {f : Frontend} (hf : f.running = true) :
    ∃ output, f.leaveShell = { f with running := true, output } := ⟨_, by rw [← hf]; rfl⟩

/-- What the lines typed do to a running frontend. -/
theorem shellLines_eq {f : Frontend} (hf : f.running = true) (typed : List Typed) :
    ∃ output, f.shellLines typed =
      ({ f with
          machine := f.machine.applyAll ((Typed.commands typed).flatMap ShellCommand.operations)
          running := !(Typed.commands typed).contains .quit
          output }, Typed.unread typed) := by
  induction typed generalizing f with
  | nil =>
    obtain ⟨output, h⟩ := leaveShell_eq hf
    rw [shellLines, if_pos hf, h]
    exact ⟨output, rfl⟩
  | cons t rest ih =>
    cases t with
    | broken =>
      obtain ⟨output, h⟩ := leaveShell_eq hf
      rw [shellLines, if_pos hf, h]
      exact ⟨output, rfl⟩
    | line s =>
      obtain ⟨output, hc⟩ : ∃ output, f.prompt.shellCommand (.read s) =
          ({ f with
              machine := f.machine.applyAll (ShellCommand.read s).operations
              running := !(ShellCommand.quit == .read s)
              output }, !(ShellCommand.read s).closes) :=
        shellCommand_eq (f := f.prompt) hf (.read s)
      rw [shellLines, if_pos hf, hc]
      cases hcloses : (ShellCommand.read s).closes with
      | true =>
        rw [Typed.commands_line_closes hcloses, Typed.unread_line_closes hcloses,
          List.flatMap_singleton, List.contains_cons, List.contains_nil, Bool.or_false]
        exact ⟨output, rfl⟩
      | false =>
        have hquit := (ShellCommand.read s).ne_quit_of_stays hcloses
        rw [Typed.commands_line_stays hcloses, Typed.unread_line_stays hcloses,
          List.flatMap_cons, List.contains_cons, hquit, Bool.false_or, Machine.applyAll_append]
        simp only [Bool.not_false]
        have h := @ih { f with
          machine := f.machine.applyAll (ShellCommand.read s).operations, running := true
          output } rfl
        dsimp only at h
        exact h

theorem shellLines_stopped {f : Frontend} (hf : f.running = false) (typed : List Typed) :
    f.shellLines typed = (f, typed) := by
  cases typed with
  | nil => simp [shellLines, hf]
  | cons t rest => cases t <;> simp [shellLines, hf]

/-- Behind its lines the shell drops the events that came while it was open. -/
theorem shell_of_lines {f : Frontend} {machine : Machine} {running : Bool} {typed : List Typed}
    (h : ∀ heading, ∃ output, (f.say heading).shellLines f.host.typed =
      ({ f with machine, running, output }, typed)) :
    ∃ output, f.shell =
      { f with
        machine, running
        host := { f.host with
          typed, calls := if f.window then .clearEvents :: f.host.calls else f.host.calls }
        output } := by
  unfold shell openShell closeShell sayLines
  generalize String.join _ = heading
  obtain ⟨output, h⟩ := h heading
  refine ⟨output, ?_⟩
  dsimp only
  rw [h]
  dsimp only
  split <;> rfl

/-- **The debug shell resets the machine or stops the frontend, and prints.** -/
theorem shell_eq (f : Frontend) :
    ∃ output, f.shell =
      { f with
        machine := f.machine.applyAll (f.inbox.operations (.down escapeKey))
        running := (f.inbox.next (.down escapeKey)).running
        host := { f.host with
          typed := (f.inbox.next (.down escapeKey)).typed
          calls := if f.window then .clearEvents :: f.host.calls else f.host.calls }
        output } := by
  apply shell_of_lines
  intro heading
  cases hf : f.running with
  | false =>
    rw [Inbox.operations_of_stopped hf, Inbox.next_of_stopped hf]
    exact ⟨_, shellLines_stopped (f := f.say heading) hf f.host.typed⟩
  | true =>
    rw [Inbox.operations_of_running hf, Inbox.next_of_running hf]
    exact shellLines_eq (f := f.say heading) hf f.host.typed

theorem shell_trace (f : Frontend) : f.shell.trace = f.trace := by
  obtain ⟨output, h⟩ := f.shell_eq
  rw [h]

theorem shell_machine (f : Frontend) :
    f.shell.machine = f.machine.applyAll (f.inbox.operations (.down escapeKey)) := by
  obtain ⟨output, h⟩ := f.shell_eq
  rw [h]

theorem key_eq (f : Frontend) (name : String) (pressed : Bool) :
    ∃ output, (f.key name pressed).1 =
      { f with machine := f.machine.applyAll (Keypad.edges name pressed), output } := by
  rw [← Machine.namedKey_machine]
  exact ⟨_, rfl⟩

/-- The calls to the host that events bring: each shell, where there is a window, drops the
events that came meanwhile. -/
def clears (window : Bool) (es : List HostEvent) : List HostCall :=
  List.replicate (if window then es.count (.down escapeKey) else 0) .clearEvents

theorem eq_of_mem_clears {window : Bool} {es : List HostEvent} {c : HostCall}
    (h : c ∈ clears window es) : c = .clearEvents := List.eq_of_mem_replicate h

@[simp] theorem clears_nil (window : Bool) : clears window [] = [] := by cases window <;> rfl

theorem clears_of_ne (window : Bool) {e : HostEvent} (h : e ≠ .down escapeKey) :
    clears window [e] = [] := by
  have hn : [e].count (.down escapeKey) = 0 := List.count_eq_zero.mpr (by simpa using Ne.symm h)
  simp [clears, hn]

theorem clears_cons (window : Bool) (e : HostEvent) (es : List HostEvent) :
    clears window (e :: es) = clears window es ++ clears window [e] := by
  cases window <;> simp [clears, List.count_cons]

theorem event_eq (f : Frontend) (e : HostEvent) :
    ∃ output, f.event e =
      { f with
        machine := f.machine.applyAll (f.inbox.operations e)
        running := (f.inbox.next e).running
        host := { f.host with
          typed := (f.inbox.next e).typed, calls := clears f.window [e] ++ f.host.calls }
        output } := by
  cases e with
  | quit =>
    rw [Inbox.next_quit, clears_of_ne _ (by decide)]
    exact ⟨_, rfl⟩
  | down name =>
    by_cases hname : name = escapeKey
    · obtain ⟨output, h⟩ := f.shell_eq
      have hclears : clears f.window [.down escapeKey] ++ f.host.calls =
          if f.window then .clearEvents :: f.host.calls else f.host.calls := by
        cases f.window <;> rfl
      rw [event, if_pos hname, h, hname, hclears]
      exact ⟨output, rfl⟩
    · obtain ⟨output, h⟩ := f.key_eq name true
      have hne : HostEvent.down name ≠ .down escapeKey := fun he => hname (HostEvent.down.inj he)
      rw [event, if_neg hname, h, Inbox.next_of_ne hne (by simp), clears_of_ne _ hne,
        Inbox.operations, if_neg hname]
      exact ⟨output, rfl⟩
  | up name =>
    obtain ⟨output, h⟩ := f.key_eq name false
    rw [event, h, Inbox.next_of_ne (by simp) (by simp), clears_of_ne _ (by simp)]
    exact ⟨output, rfl⟩
  | other =>
    rw [Inbox.next_of_ne (by simp) (by simp), clears_of_ne _ (by simp)]
    exact ⟨_, rfl⟩

/-- **The events of a frame are operations on the machine.** -/
theorem events_eq (f : Frontend) (es : List HostEvent) :
    ∃ output, f.events es =
      { f with
        machine := f.machine.applyAll (f.inbox.operationsOf es)
        running := (f.inbox.after es).running
        host := { f.host with
          typed := (f.inbox.after es).typed, calls := clears f.window es ++ f.host.calls }
        output } := by
  induction es generalizing f with
  | nil =>
    rw [clears_nil]
    exact ⟨_, rfl⟩
  | cons e es ih =>
    obtain ⟨output, h⟩ := f.event_eq e
    obtain ⟨output', h'⟩ := ih (f.event e)
    refine ⟨output', ?_⟩
    rw [events, h', h, Inbox.operationsOf, Machine.applyAll_append, clears_cons f.window e es,
      List.append_assoc]
    rfl

end Frontend

end Chip8
