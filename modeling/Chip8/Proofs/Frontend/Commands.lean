import Chip8.Proofs.Frontend.Shell
import Chip8.Proofs.Instruction.Text
import Chip8.Proofs.Machine.Reset
import Mathlib.Data.List.TakeWhile

/-!
Sessions of the debug shell. Three of its commands run what may fail: the text of the next
instruction, a reset, and the range of a dump. On a machine that was created and operated none of
them does (`tryShell_eq`), whatever is typed; so a session takes its lines up to the first one
that closes it, and leaves all but the machine that it may reset and the flag that it may
clear as it was (`shell_observes`).
-/

namespace Chip8

namespace Text

/-- A character that is not blank is part of a word. -/
theorem wordsFrom_ne_nil {word cs : List Char} (h : word ≠ [] ∨ ∃ c ∈ cs, isBlank c = false) :
    wordsFrom word cs ≠ [] := by
  induction cs generalizing word with
  | nil =>
    have hw : word ≠ [] := by simpa using h
    simp [wordsFrom, hw]
  | cons c cs ih =>
    unfold wordsFrom
    cases hc : isBlank c with
    | false => exact ih (.inl (List.cons_ne_nil c word))
    | true =>
      cases word with
      | cons d word => exact List.cons_ne_nil _ _
      | nil =>
        apply ih
        obtain ⟨b, hb, hblank⟩ := h.resolve_left (fun hw => hw rfl)
        rcases List.mem_cons.mp hb with rfl | hb
        · rw [hc] at hblank
          cases hblank
        · exact .inr ⟨b, hb, hblank⟩

theorem exists_of_trimBy_ne_nil {p : Char → Bool} {cs : List Char} (h : trimBy p cs ≠ []) :
    ∃ c ∈ trimBy p cs, p c = false := by
  unfold trimBy at h ⊢
  have hd : (cs.dropWhile p).reverse.dropWhile p ≠ [] := fun he => h (by rw [he]; rfl)
  exact ⟨_, List.mem_reverse.mpr (List.head_mem hd), List.head_dropWhile_not p hd⟩

/-- What is left of a text when it is trimmed has a word. -/
theorem words_trim_ne_nil {s : String} (h : (trim s).isEmpty = false) : words (trim s) ≠ [] := by
  have hs : (trim s).toList = trimBy isBlank s.toList := String.toList_ofList
  apply wordsFrom_ne_nil
  rw [hs]
  refine .inr (exists_of_trimBy_ne_nil ?_)
  rw [← hs]
  simpa using h

end Text

/-! ## Lines and commands -/

namespace ShellCommand

/-- The words that stand for a command; a dump has its argument in the word. -/
def names : ShellCommand → List String
  | .resume => ["", "resume"]
  | .cpu => ["c", "cpu"]
  | .screen => ["s", "screen"]
  | .trace => ["t", "trace"]
  | .reset => ["r", "reset"]
  | .quit => ["q", "quit", "exit"]
  | .memory _ | .unknown => []

/-- A command that has names is read from lines that say one of them. -/
theorem read_eq_iff {c : ShellCommand} (hc : c.names ≠ []) (line : String) :
    read line = c ↔ word line ∈ c.names := by
  unfold read
  generalize word line = w
  constructor
  · rintro rfl
    unfold ofWord at hc ⊢
    split_ifs at hc ⊢ with hresume hcpu hscreen htrace hreset _ hquit
    · exact hresume
    · exact hcpu
    · exact hscreen
    · exact htrace
    · exact hreset
    · exact absurd rfl hc
    · exact hquit
    · exact absurd rfl hc
  · cases c with
    | memory _ | unknown => exact absurd rfl hc
    | resume | cpu | screen | trace | reset | quit =>
      revert w
      decide

theorem closes_iff (c : ShellCommand) : c.closes = true ↔ c = .resume ∨ c = .quit := by
  cases c <;> simp [closes]

/-- Whether the shell closes behind a line. -/
def isClosing (line : String) : Bool := word line ∈ ["", "resume", "q", "quit", "exit"]

theorem closes_read (line : String) : (read line).closes = isClosing line := by
  rw [Bool.eq_iff_iff, closes_iff, read_eq_iff (by decide), read_eq_iff (by decide), isClosing,
    decide_eq_true_eq]
  exact List.mem_append.symm

/-- The argument of a dump is trimmed. -/
theorem exists_of_read_memory {line argument : String} (h : read line = .memory argument) :
    ∃ s, argument = Text.trim s := by
  unfold read ofWord at h
  split_ifs at h
  exact ⟨_, (ShellCommand.memory.inj h).symm⟩

end ShellCommand

/-! ## Commands that may fail -/

/-- What a command of the shell may fail with. -/
inductive ShellFault where
  /-- The next instruction has no text. -/
  | text (e : TemplateError)
  | reset (f : Fault)
  | memory (e : FrontendError)
  deriving DecidableEq, Repr

namespace Frontend

/-- A command with the failures of what it calls. -/
def tryCommand (f : Frontend) : ShellCommand → Except ShellFault (Frontend × Bool)
  | .cpu =>
    match Standard.table.format f.machine.fetch with
    | .error e => .error (.text e)
    | .ok _ => .ok (f.sayCpu, true)
  | .reset =>
    match f.machine.reset.result with
    | .error e => .error (.reset e)
    | .ok () => .ok (f.resetMachine, true)
  | .memory argument =>
    match f.sayMemory argument with
    | (_, .error e) => .error (.memory e)
    | (f, .ok ()) => .ok (f, true)
  | c => .ok (f.shellCommand c)

/-- A command that fails ends the session at its line. -/
def tryLines (f : Frontend) : List Typed → Except ShellFault (Frontend × List Typed)
  | .line s :: rest =>
    if f.running then
      match f.prompt.tryCommand (.read s) with
      | .error e => .error e
      | .ok (f, true) => f.tryLines rest
      | .ok (f, false) => .ok (f, rest)
    else .ok (f, .line s :: rest)
  | typed => .ok (f.shellLines typed)

def tryShell (f : Frontend) : Except ShellFault Frontend :=
  match f.openShell.tryLines f.host.typed with
  | .error e => .error e
  | .ok (f, typed) => .ok (f.closeShell typed)

/-- A range that is read from a line may be unreadable, but never blank. -/
theorem read_trim_ne_blank (pc : Int) (s : String) : DumpRange.read pc (Text.trim s) ≠ .blank := by
  unfold DumpRange.read
  split
  · exact nofun
  · rename_i hs
    cases hw : Text.words (Text.trim s) with
    | nil => exact absurd hw (Text.words_trim_ne_nil (Bool.eq_false_iff.mpr hs))
    | cons start rest =>
      dsimp only
      repeat' split
      all_goals exact nofun

theorem sayMemory_trim (f : Frontend) (s : String) :
    f.sayMemory (Text.trim s) = ((f.sayMemory (Text.trim s)).1, .ok ()) := by
  unfold sayMemory
  split
  · exact absurd ‹_› (read_trim_ne_blank _ s)
  · rfl
  · split <;> rfl

theorem tryCommand_read {f : Frontend} (hm : f.machine.Reachable) (line : String) :
    f.tryCommand (.read line) = .ok (f.shellCommand (.read line)) := by
  cases hc : ShellCommand.read line with
  | cpu =>
    rw [tryCommand, Standard.format_standard]
    rfl
  | reset =>
    obtain ⟨fresh, _, hr⟩ := hm.reset_eq
    rw [tryCommand, hr]
    rfl
  | memory argument =>
    obtain ⟨s, rfl⟩ := ShellCommand.exists_of_read_memory hc
    rw [tryCommand, f.sayMemory_trim]
    rfl
  | resume | screen | trace | quit | unknown => rfl

theorem shellCommand_reachable {f : Frontend} (hm : f.machine.Reachable) (hf : f.running = true)
    (c : ShellCommand) : (f.shellCommand c).1.machine.Reachable := by
  obtain ⟨output, h⟩ := shellCommand_eq hf c
  rw [h]
  exact hm.applyAll c.operations

theorem tryLines_eq {f : Frontend} (hm : f.machine.Reachable) (typed : List Typed) :
    f.tryLines typed = .ok (f.shellLines typed) := by
  induction typed generalizing f with
  | nil => rfl
  | cons t rest ih =>
    cases t with
    | broken => rfl
    | line s =>
      unfold tryLines shellLines
      cases hf : f.running with
      | false => rfl
      | true =>
        have hnext := shellCommand_reachable (f := f.prompt) hm hf (.read s)
        rw [if_pos rfl, if_pos rfl, tryCommand_read (f := f.prompt) hm]
        generalize f.prompt.shellCommand (.read s) = r at hnext ⊢
        obtain ⟨g, stays⟩ := r
        cases stays with
        | false => rfl
        | true => exact ih hnext

/-- **On a machine that was created and operated the shell never fails.** -/
theorem tryShell_eq {f : Frontend} (hm : f.machine.Reachable) : f.tryShell = .ok f.shell := by
  unfold tryShell shell
  rw [tryLines_eq (f := f.openShell) hm]

/-! ## Sessions -/

/-- The lines that a session takes from `lines`. -/
def taken (lines : List String) : List String :=
  lines.take (lines.findIdx ShellCommand.isClosing + 1)

theorem commands_lines (lines : List String) :
    Typed.commands (lines.map .line) = (taken lines).map ShellCommand.read := by
  induction lines with
  | nil => rfl
  | cons line rest ih =>
    unfold taken
    rw [List.map_cons, List.findIdx_cons]
    cases hc : ShellCommand.isClosing line with
    | true =>
      rw [Typed.commands_line_closes ((ShellCommand.closes_read line).trans hc)]
      rfl
    | false =>
      rw [Typed.commands_line_stays ((ShellCommand.closes_read line).trans hc), ih]
      rfl

theorem unread_lines (lines : List String) :
    Typed.unread (lines.map .line) =
      (lines.drop (lines.findIdx ShellCommand.isClosing + 1)).map .line := by
  induction lines with
  | nil => rfl
  | cons line rest ih =>
    rw [List.map_cons, List.findIdx_cons]
    cases hc : ShellCommand.isClosing line with
    | true =>
      rw [Typed.unread_line_closes ((ShellCommand.closes_read line).trans hc)]
      rfl
    | false =>
      rw [Typed.unread_line_stays ((ShellCommand.closes_read line).trans hc), ih]
      rfl

/-- A session quits on the line that closes it or not at all. -/
theorem quit_mem_commands_iff (lines : List String) :
    ShellCommand.quit ∈ Typed.commands (lines.map .line) ↔
      ∃ line, lines.find? ShellCommand.isClosing = some line ∧ ShellCommand.read line = .quit := by
  induction lines with
  | nil => simp [Typed.commands]
  | cons line rest ih =>
    rw [List.map_cons]
    cases hc : ShellCommand.isClosing line with
    | true =>
      rw [Typed.commands_line_closes ((ShellCommand.closes_read line).trans hc),
        List.find?_cons_of_pos hc]
      simp [eq_comm]
    | false =>
      have hcloses := (ShellCommand.closes_read line).trans hc
      have hne : ShellCommand.quit ≠ .read line := by
        intro he
        rw [← he] at hcloses
        cases hcloses
      rw [Typed.commands_line_stays hcloses, List.find?_cons_of_neg (by simp [hc]), ← ih]
      simp [hne]

/-- However often it is reset, the machine is reset once. -/
theorem applyAll_commands {m : Machine} (hm : m.Reachable) (cs : List ShellCommand) :
    m.applyAll (cs.flatMap ShellCommand.operations) =
      if ShellCommand.reset ∈ cs then m.reset.machine else m := by
  induction cs generalizing m with
  | nil => rfl
  | cons c cs ih =>
    rw [List.flatMap_cons, Machine.applyAll_append]
    by_cases hc : c = .reset
    · subst hc
      have hreset : m.reset.machine.Reachable := hm.apply .reset
      rw [if_pos List.mem_cons_self]
      calc
        _ = m.reset.machine.applyAll (cs.flatMap ShellCommand.operations) := rfl
        _ = if ShellCommand.reset ∈ cs then m.reset.machine.reset.machine else m.reset.machine :=
          ih hreset
        _ = m.reset.machine := by rw [hm.reset_twice, ite_self]
    · have hops : c.operations = [] := by
        cases c with
        | reset => exact absurd rfl hc
        | _ => rfl
      rw [hops, Machine.applyAll, ih hm]
      simp [Ne.symm hc]

/-- **A session of the debug shell shows and changes nothing else.** Whatever is typed, it does
not fail and takes the lines up to the first that closes it, or all of them. It stops the
frontend exactly if that line says so. The machine is what it was, or what it was at power-on
if one of the lines resets it; the trace and what is due are left alone. -/
theorem shell_observes {f : Frontend} (hm : f.machine.Reachable) (hf : f.running = true)
    {lines : List String} (ht : f.host.typed = lines.map .line) :
    f.tryShell = .ok f.shell ∧
    f.shell.host.typed = (lines.drop (lines.findIdx ShellCommand.isClosing + 1)).map .line ∧
    (f.shell.running = false ↔
      ∃ line, lines.find? ShellCommand.isClosing = some line ∧
        ShellCommand.word line ∈ ["q", "quit", "exit"]) ∧
    ((∀ line ∈ taken lines, ShellCommand.word line ∉ ["r", "reset"]) →
      f.shell.machine = f.machine) ∧
    ((∃ line ∈ taken lines, ShellCommand.word line ∈ ["r", "reset"]) →
      Machine.create f.machine.program f.machine.dialect f.machine.strict f.machine.entropy =
        .ok f.shell.machine) ∧
    f.shell.trace = f.trace ∧
    f.shell.stepBudget = f.stepBudget ∧ f.shell.timerBudget = f.timerBudget := by
  have htry := tryShell_eq hm
  have hb : f.inbox = ⟨true, lines.map .line⟩ := by rw [inbox, hf, ht]
  obtain ⟨output, hs⟩ := f.shell_eq
  rw [hb, Inbox.operations_of_running rfl, Inbox.next_of_running rfl] at hs
  dsimp only at hs
  rw [applyAll_commands hm, unread_lines, commands_lines] at hs
  have hreset : ShellCommand.reset ∈ (taken lines).map .read ↔
      ∃ line ∈ taken lines, ShellCommand.word line ∈ ["r", "reset"] := by
    simp only [List.mem_map, ShellCommand.read_eq_iff (c := .reset) (by decide),
      ShellCommand.names]
  have hquit : ShellCommand.quit ∈ (taken lines).map .read ↔
      ∃ line, lines.find? ShellCommand.isClosing = some line ∧
        ShellCommand.word line ∈ ["q", "quit", "exit"] := by
    rw [← commands_lines, quit_mem_commands_iff]
    simp only [ShellCommand.read_eq_iff (c := .quit) (by decide), ShellCommand.names]
  rw [hs]
  refine ⟨htry.trans (congrArg _ hs), rfl, ?_, ?_, ?_, rfl, rfl, rfl⟩
  · rw [← hquit]
    simp
  · intro hnone
    refine if_neg fun h => ?_
    obtain ⟨line, hl, hw⟩ := hreset.mp h
    exact hnone line hl hw
  · intro hsome
    obtain ⟨fresh, hc, hr⟩ := hm.reset_eq
    rw [hc, if_pos (hreset.mpr hsome), hr]

/-- A session on a machine that has run, with a dump of negative length, one without an argument,
and a line behind the end. -/
theorem shell_observes_reset_and_quit :
    ∃ start m, Machine.create #[0x60, 0x05] .modern true .closed = .ok start ∧
      m = start.applyAll [.run 1, .keyDown 3] ∧
      let f := { Frontend.start .standard .none .mono m
        { Host.quiet with typed := ["m 200 -1", "Mem", " R ", "eXit", "c"].map .line } with
        running := true }
      f.tryShell = .ok f.shell ∧ f.shell.host.typed = [.line "c"] ∧ f.shell.running = false ∧
      Machine.create m.program m.dialect m.strict m.entropy = .ok f.shell.machine := by
  obtain ⟨start, hc, _⟩ := Machine.create_start #[0x60, 0x05] (by decide) (by decide) .modern true
    .closed
  have hm := (Machine.Reachable.create hc).applyAll [.run 1, .keyDown 3]
  refine ⟨start, _, hc, rfl, ?_⟩
  intro f
  have ht : f.host.typed = ["m 200 -1", "Mem", " R ", "eXit", "c"].map .line := rfl
  obtain ⟨htry, hleft, hquits, _, hreset, _⟩ := shell_observes hm rfl ht
  refine ⟨htry, hleft.trans (by decide +kernel), hquits.mpr ⟨"eXit", ?_⟩, hreset ⟨" R ", ?_⟩⟩
  · decide +kernel
  · decide +kernel

end Frontend

end Chip8
