import Chip8.Proofs.Instruction.Text
import Chip8.Proofs.Machine.Additive
import Chip8.Proofs.Machine.Reset
import Chip8.Proofs.Machine.Work
import Chip8.Proofs.Text.Message

/-!
Logging observes. Every line of the log can be made, so work that writes its log as it goes
leaves and answers what the machine does without one, and prints its events
(`Work.apply_eq`); what is printed is all that the setting of the log decides
(`logging_observes`).
-/

namespace Chip8

@[simp] theorem Categories.print_append (c : Categories) (es es' : List Event) :
    c.print (es ++ es') = c.print es ++ c.print es' := by
  simp only [print, List.filter_append, List.map_append, String.join_append]

theorem Categories.print_none (es : List Event) : none.print es = "" := by
  simp [print, enabled, none, String.join]

/-- Only the guard decides what a store says. -/
@[simp] theorem Memory.storeAllEvents_store (m : Memory) (a value b : Int) (bytes : List UInt8) :
    (m.store a value).storeAllEvents b bytes = m.storeAllEvents b bytes := by
  induction bytes generalizing b with
  | nil => rfl
  | cons x bytes ih => simp [storeAllEvents, storeEvents, ih]

/-! ## Lines -/

namespace Event

open Text (Segment message spelledOut message_spelledOut)

/-- The template can be filled with the arguments, whatever the memory, and then says what the
event does. -/
def Line (e : Event) (template : String) (args : List Text.Argument) : Prop :=
  ∀ room, message room template args = .ok e.text

theorem line_of_segments {e : Event} (p : Segment) (ps : List Segment)
    (h : (p :: ps).all Segment.isClean = true) (hplaces : (p :: ps).flatMap Segment.arguments ≠ [])
    (htext : e.text = (ps.map Segment.shown).foldl (· ++ ·) p.shown) :
    e.Line (spelledOut (p :: ps)) ((p :: ps).flatMap Segment.arguments) := by
  intro room
  rw [message_spelledOut room (List.all_eq_true.mp h) hplaces, htext, List.map_cons, String.join,
    List.foldl_cons, String.empty_append]

theorem fetched_line (pc : Int) (word : Word) {i : Option Instruction} {s : String}
    (h : Instruction.text i word = .ok s) :
    (fetched pc word i).Line "%03X %04X %s" [.whole pc, .whole word.val, .text s] := by
  refine line_of_segments (.hex 3 pc) [.plain " ", .hex 4 word.val, .plain " ", .text s] rfl
    (List.cons_ne_nil _ _) ?_
  show _ ++ _ ++ ((Instruction.text i word).toOption).getD "" = _
  rw [h]
  rfl

theorem unknownIgnored_line (word : Word) (pc : Int) :
    (unknownIgnored word pc).Line "unknown opcode %04X at %03X ignored"
      [.whole word.val, .whole pc] :=
  line_of_segments (.plain "unknown opcode ")
    [.hex 4 word.val, .plain " at ", .hex 3 pc, .plain " ignored"] rfl (List.cons_ne_nil _ _) rfl

theorem nativeIgnored_line (address : Nat) :
    (nativeIgnored address).Line "SYS #%03X ignored" [.whole address] :=
  line_of_segments (.plain "SYS #") [.hex 3 address, .plain " ignored"] rfl
    (List.cons_ne_nil _ _) rfl

theorem randomFailed_line (reason : String) :
    (randomFailed reason).Line "random source failed: %s" [.text reason] :=
  line_of_segments (.plain "random source failed: ") [.text reason] rfl (List.cons_ne_nil _ _) rfl

theorem writeIgnored_line (address : Nat) (value : UInt8) :
    (writeIgnored address value).Line "ignored write addr=%03x val=%02x"
      [.whole address, .whole value.toNat] :=
  line_of_segments (.plain "ignored write addr=")
    [.lowerHex 3 address, .plain " val=", .lowerHex 2 value.toNat] rfl (List.cons_ne_nil _ _) rfl

theorem key_line (index : Fin 16) (pressed : Bool) :
    (if pressed then keyDown index else keyUp index).Line
      (if pressed then "key_down=%X" else "key_up=%X") [.whole index.val] := by
  cases pressed with
  | true =>
    exact line_of_segments (.plain "key_down=") [.hex 0 index.val] rfl (List.cons_ne_nil _ _) rfl
  | false =>
    exact line_of_segments (.plain "key_up=") [.hex 0 index.val] rfl (List.cons_ne_nil _ _) rfl

theorem unmapped_line (name : String) (pressed : Bool) :
    (if pressed then unmappedPress name else unmappedRelease name).Line
      (if pressed then "unmapped_press=%s" else "unmapped_release=%s") [.text name] := by
  cases pressed with
  | true =>
    exact line_of_segments (.plain "unmapped_press=") [.text name] rfl (List.cons_ne_nil _ _) rfl
  | false =>
    exact line_of_segments (.plain "unmapped_release=") [.text name] rfl (List.cons_ne_nil _ _) rfl

theorem keyOutOfRange_line (value : UInt8) :
    (keyOutOfRange value).Line "key index %02X out of range treated as released"
      [.whole value.toNat] :=
  line_of_segments (.plain "key index ")
    [.hex 2 value.toNat, .plain " out of range treated as released"] rfl (List.cons_ne_nil _ _) rfl

theorem keyWaitResolved_line (register : Fin 16) (index : Int) :
    (keyWaitResolved register index).Line "key wait resolved V%X=%X"
      [.whole register.val, .whole index] :=
  line_of_segments (.plain "key wait resolved V")
    [.hex 0 register.val, .plain "=", .hex 0 index] rfl (List.cons_ne_nil _ _) rfl

end Event

/-! ## Work and outcomes -/

/-- What is printed before. -/
def Logged.behind {α : Type} (text : String) (l : Logged α) : Logged α :=
  ⟨l.machine, l.result, text ++ l.output⟩

namespace Outcome

variable {α : Type}

/-- An outcome with its events printed. -/
def printed (c : Categories) (o : Outcome α) : Logged α :=
  ⟨o.machine, o.result.mapError .fault, c.print o.events⟩

theorem printed_behind (c : Categories) (o : Outcome α) (es : List Event) :
    (o.printed c).behind (c.print es) =
      Outcome.printed c ⟨o.machine, o.result, es ++ o.events⟩ := by
  simp only [printed, Logged.behind, Categories.print_append]

end Outcome

namespace Work

variable {α β : Type} (c : Categories) (p : Printer) (m : Machine)

@[simp] theorem get_bind (next : Machine → Work α) : (get >>= next) c p m = next m c p m := by
  simp [Bind.bind, get]

@[simp] theorem room_bind (next : Room → Work α) :
    (room >>= next) c p m = next p.room c p m := by
  simp [Bind.bind, room]

@[simp] theorem modify_bind (change : Machine → Machine) (next : Unit → Work α) :
    (modify change >>= next) c p m = next () c p (change m) := by
  simp [Bind.bind, modify]

variable {c p m} {m' : Machine} {w : Work α} {o : Outcome α}

theorem bind_of_ok {a : α} (hw : w c p m = o.printed c) (hr : o.result = .ok a)
    (next : α → Work β) :
    (w >>= next) c p m = (next a c p o.machine).behind (c.print o.events) := by
  simp [Bind.bind, hw, Outcome.printed, hr, Except.mapError, Logged.behind]

theorem bind_of_error {f : Fault} (hw : w c p m = o.printed c) (hr : o.result = .error f)
    (next : α → Work β) :
    (w >>= next) c p m = ⟨o.machine, .error (.fault f), c.print o.events⟩ := by
  simp [Bind.bind, hw, Outcome.printed, hr, Except.mapError]

/-- An answer comes behind what was printed. -/
theorem bind_pure (hw : w c p m = o.printed c) (answer : α → β) :
    (w >>= fun a => pure (answer a)) c p m =
      Outcome.printed c ⟨o.machine, o.result.map answer, o.events⟩ := by
  cases hr : o.result with
  | ok a =>
    rw [bind_of_ok hw hr]
    simp [Pure.pure, Logged.behind, Outcome.printed, Except.map, Except.mapError]
  | error f =>
    rw [bind_of_error hw hr]
    rfl

theorem bind_modify_pure {a : α} {es : List Event}
    (hw : w c p m = Outcome.printed c ⟨m', .ok a, es⟩) (change : α → Machine → Machine)
    (answer : α → β) :
    (w >>= fun a => do modify (change a); return answer a) c p m =
      Outcome.printed c ⟨change a m', .ok (answer a), es⟩ := by
  rw [bind_of_ok hw rfl, modify_bind]
  simp [Pure.pure, Logged.behind, Outcome.printed, Except.mapError]

/-- What has no events has nothing to print. -/
theorem quiet_eq {f : Machine → Outcome α} (h : (f m).events = []) :
    quiet f c p m = (f m).printed c := by
  simp [quiet, Outcome.printed, h, Categories.print, String.join]

theorem undoing_eq (hw : w c p m = o.printed c) (pc : Int) :
    undoing pc w c p m = Outcome.printed c
      ⟨match o.result with
        | .ok _ => o.machine
        | .error f => if f.isStack then o.machine.jump pc else o.machine, o.result, o.events⟩ := by
  cases hr : o.result <;> simp [undoing, hw, Outcome.printed, hr, Except.mapError]

@[simp] theorem withMemory_events (m : Machine) (e : Except Fault Memory) :
    (m.withMemory e).events = [] := by
  cases e <;> rfl

@[simp] theorem reset_events (m : Machine) : m.reset.events = [] := by
  unfold Machine.reset
  split
  · rfl
  · split <;> rfl

section

variable (hp : p.TakesAll)
include hp

/-- A line that can be made is printed if its category is on, and the work goes on. -/
theorem log_line {e : Event} {template : String} {args : List Text.Argument}
    (h : e.Line template args) (c : Categories) (m : Machine) :
    whenOn e.category (log e.category template args) c p m =
      Outcome.printed c ⟨m, .ok (), [e]⟩ := by
  cases hc : c.enabled e.category with
  | true =>
    simp only [whenOn, log, hc, ↓reduceIte, room_bind, h p.room, print, hp _]
    simp [Outcome.printed, Except.mapError, Categories.print, hc, String.join]
  | false => simp [whenOn, hc, Outcome.printed, Except.mapError, Categories.print, String.join]

/-! ## Instructions -/

theorem store_eq (c : Categories) (m : Machine) (a value : Int) :
    store a value c p m = (m.store a value).printed c := by
  rw [store, get_bind]
  unfold Machine.store Memory.storeEvents
  split
  · next hguard =>
    rw [Memory.store, if_pos hguard]
    exact log_line hp (Event.writeIgnored_line _ _) c m
  · rfl

theorem storeAll_eq (c : Categories) (m : Machine) (a : Int) (bytes : List UInt8) :
    storeAll a bytes c p m = Outcome.printed c
      ⟨{ m with memory := m.memory.storeAll a bytes }, .ok (),
        m.memory.storeAllEvents a bytes⟩ := by
  induction bytes generalizing m a with
  | nil => rfl
  | cons b bytes ih =>
    rw [storeAll, bind_of_ok (store_eq hp c m a b.toNat) rfl, ih]
    refine (Outcome.printed_behind ..).trans ?_
    rw [Machine.store, Memory.storeAllEvents_store]
    rfl

theorem drawRandom_eq (c : Categories) (m : Machine) (w : Word) :
    drawRandom w c p m = (m.drawRandom w).printed c := by
  rw [drawRandom, get_bind]
  simp only [modify_bind]
  unfold Machine.drawRandom
  cases m.entropy.current with
  | value n => rfl
  | unavailable =>
    exact bind_modify_pure (log_line hp (Event.randomFailed_line _) c _) (fun _ => _) (fun _ => _)
  | broken => rfl

theorem keyHeld_eq (c : Categories) (m : Machine) (w : Word) :
    keyHeld w c p m = Outcome.printed c ⟨m, .ok (m.keyHeld w), m.keyHeldEvents w⟩ := by
  rw [keyHeld, get_bind]
  unfold Machine.keyHeldEvents
  split
  · exact bind_pure (log_line hp (Event.keyOutOfRange_line _) c m) _
  · rfl

theorem execute_eq (c : Categories) (m : Machine) (op : Op) (w : Word) :
    execute op w c p m = (m.execute op w).printed c := by
  rw [execute, get_bind]
  cases op with
  | sys => exact bind_pure (log_line hp (Event.nativeIgnored_line _) c m) _
  | rnd => exact drawRandom_eq hp c m w
  | skp => exact bind_modify_pure (keyHeld_eq hp c m w) _ _
  | sknp => exact bind_modify_pure (keyHeld_eq hp c m w) _ _
  | ldBVx => exact bind_pure (storeAll_eq hp c m _ _) _
  | ldMemVx => exact bind_modify_pure (storeAll_eq hp c m _ _) _ _
  | call =>
    refine quiet_eq ?_
    rw [Machine.execute, Machine.call]
    split <;> rfl
  | ret =>
    refine quiet_eq ?_
    rw [Machine.execute, Machine.ret]
    split <;> rfl
  | ldVxDt =>
    refine quiet_eq ?_
    rw [Machine.execute, Machine.readDelay]
    split <;> rfl
  | _ => exact quiet_eq rfl

/-! ## Steps -/

theorem skipUnknown_eq (c : Categories) (m : Machine) :
    skipUnknown c p m = m.skipUnknown.printed c := by
  rw [skipUnknown, get_bind]
  unfold Machine.skipUnknown
  split
  · rfl
  · exact bind_modify_pure (log_line hp (Event.unknownIgnored_line _ _) c m) _ _

theorem perform_eq (c : Categories) (m : Machine) (i : Instruction) :
    perform i c p m = (m.perform i).printed c := by
  have hu := undoing_eq (execute_eq hp c m.advance i.op m.fetch) m.regs.pc
  rw [perform, get_bind, modify_bind]
  unfold Machine.perform
  generalize m.advance.execute i.op m.fetch = o at hu
  obtain ⟨m', result, es⟩ := o
  cases result with
  | ok drew => exact bind_modify_pure hu _ _
  | error f => exact bind_of_error hu rfl _

/-- The text that is looked up again is that of the instruction. -/
theorem logFetched_eq {s : String} (h : ∀ room, m.table.formatIn room m.fetch = .ok s) :
    logFetched c p m = Outcome.printed c
      ⟨m, .ok (), [.fetched m.regs.pc m.fetch (m.table.lookup m.fetch)]⟩ := by
  rw [← log_line hp (Event.fetched_line m.regs.pc m.fetch (h .full)) c m]
  simp only [logFetched, whenOn, get_bind, room_bind, h]
  rfl

theorem step_eq {s : String} (h : ∀ room, m.table.formatIn room m.fetch = .ok s) :
    step c p m = m.step.printed c := by
  rw [step, get_bind]
  unfold Machine.step
  split
  · rfl
  · rw [bind_of_ok (logFetched_eq hp h) rfl]
    dsimp only
    cases m.table.lookup m.fetch with
    | none =>
      refine (congrArg (Logged.behind _) (skipUnknown_eq hp c m)).trans ?_
      exact Outcome.printed_behind c _ _
    | some i =>
      refine (congrArg (Logged.behind _) (perform_eq hp c m i)).trans ?_
      exact Outcome.printed_behind c _ _

/-- In a machine of which every word has a text, no line of a run is missing. -/
theorem run_eq (c : Categories) {m : Machine} (h : m.table.HasTexts) (n : Nat) :
    run n c p m = (m.run n).printed c := by
  induction n generalizing m with
  | zero => rfl
  | succ n ih =>
    rw [run, get_bind]
    cases ha : m.awaiting with
    | true =>
      rw [Machine.run_of_awaiting ha]
      rfl
    | false =>
      obtain ⟨s, hs⟩ := h m.fetch
      simp only [Bool.false_eq_true, ↓reduceIte]
      rw [Machine.run_succ_eq ha]
      cases hr : m.step.result with
      | error f =>
        rw [bind_of_error (step_eq hp hs) hr, Outcome.followedBy_of_error hr, Outcome.printed, hr]
        rfl
      | ok drew =>
        have ht : m.step.machine.table = m.table :=
          congrArg Machine.Settings.table (m.applyAll_settings [.step])
        have hrest := ih (m := m.step.machine) (by rwa [ht])
        rw [bind_of_ok (step_eq hp hs) hr, Outcome.followedBy_of_ok hr, bind_pure hrest]
        exact Outcome.printed_behind c _ _

/-! ## Keys -/

theorem keyEdge_eq (c : Categories) (m : Machine) (i : Int) (pressed : Bool) :
    keyEdge i pressed c p m = (m.keyEdge i pressed).printed c := by
  rw [keyEdge, get_bind]
  unfold Machine.keyEdge
  split
  · rw [modify_bind]
    exact log_line hp (Event.keyWaitResolved_line m.keyRegister i) c _
  · rfl

theorem setKey_eq (c : Categories) (m : Machine) (i : Fin 16) (pressed : Bool) :
    setKey i pressed c p m = (m.setKey i pressed).printed c := by
  have hl := Event.key_line i pressed
  have he := keyEdge_eq hp c { m with keypad := m.keypad.set i pressed } i.val pressed
  rw [setKey, modify_bind]
  cases pressed with
  | true =>
    refine (bind_of_ok (log_line hp hl c _) rfl _).trans ?_
    exact (congrArg (Logged.behind _) he).trans (Outcome.printed_behind c _ _)
  | false =>
    refine (bind_of_ok (log_line hp hl c _) rfl _).trans ?_
    exact (congrArg (Logged.behind _) he).trans (Outcome.printed_behind c _ _)

theorem key_eq (c : Categories) (m : Machine) (i : Int) (pressed : Bool) :
    key i pressed c p m = (m.key i pressed).printed c := by
  unfold key Machine.key
  cases Keypad.index i with
  | ok i => exact setKey_eq hp c m i pressed
  | error f => rfl

theorem namedKey_eq (c : Categories) (m : Machine) (name : String) (pressed : Bool) :
    namedKey name pressed c p m = (m.namedKey name pressed).printed c := by
  unfold namedKey Machine.namedKey
  cases Keypad.ofName? name with
  | some i => exact bind_pure (setKey_eq hp c m i pressed) _
  | none =>
    have hl := Event.unmapped_line name pressed
    cases pressed with
    | true => exact bind_pure (log_line hp hl c m) _
    | false => exact bind_pure (log_line hp hl c m) _

/-! ## Operations -/

/-- **Work that writes its log does what the machine does**, and prints the events. -/
theorem apply_eq (c : Categories) {m : Machine} (h : m.table.HasTexts)
    (op : Operation) : apply op c p m = (m.apply op).printed c := by
  cases op with
  | step =>
    obtain ⟨s, hs⟩ := h m.fetch
    exact bind_pure (step_eq hp hs) some
  | run n => exact bind_pure (run_eq hp c h n.toNat) some
  | keyDown i | keyUp i => exact bind_pure (key_eq hp c m i _) fun _ => none
  | press name | release name => exact bind_pure (namedKey_eq hp c m name _) some
  | store a value => exact bind_pure (store_eq hp c m a value) fun _ => none
  | tick => exact quiet_eq (p := p) (f := (·.apply .tick)) rfl
  | reset => exact quiet_eq (p := p) (f := (·.apply .reset)) (reset_events m)
  | load image start =>
    exact quiet_eq (p := p) (f := (·.apply (.load image start))) (withMemory_events m _)
  | clearProgram => exact quiet_eq (p := p) (f := (·.apply .clearProgram)) (withMemory_events m _)

theorem applyAll_eq (c : Categories) {m : Machine} (h : m.table.HasTexts)
    (ops : List Operation) : applyAll c p m ops = (m.outcomes ops).map (·.printed c) := by
  induction ops generalizing m with
  | nil => rfl
  | cons op ops ih =>
    have ht : (m.apply op).machine.table = m.table :=
      congrArg Machine.Settings.table (m.applyAll_settings [op])
    have hrest := ih (m := (m.apply op).machine) (by rwa [ht])
    rw [applyAll, apply_eq hp c h, Machine.outcomes, List.map_cons, ← hrest]
    rfl

end

end Work

namespace Machine

/-- **Logging observes.** Let the table of a machine hold standard instructions, in any order
and some of them refused, and let the output take every line. Under any two settings of the log a
sequence of operations leaves the same machines, answers and faults; these are those of the machine
without a log, no line is ever missing, and what is printed are the events of the categories that
are on. Without a setting nothing is printed. -/
theorem logging_observes {m : Machine} (ht : m.table.OfStandard) {p : Printer} (hp : p.TakesAll)
    (ops : List Operation) :
    let categories (setting : Option String) := (LogSetting.ofSetting setting).categories
    let logged (setting : Option String) := Work.applyAll (categories setting) p m ops
    (∀ setting setting',
      (logged setting).map (fun l => (l.machine, l.result)) =
        (logged setting').map fun l => (l.machine, l.result)) ∧
    (∀ setting, logged setting = (m.outcomes ops).map fun o =>
      ⟨o.machine, o.result.mapError .fault, (categories setting).print o.events⟩) ∧
    ∀ l ∈ logged none, l.output = "" := by
  intro categories logged
  have heq (setting : Option String) : logged setting = (m.outcomes ops).map fun o =>
      ⟨o.machine, o.result.mapError .fault, (categories setting).print o.events⟩ :=
    Work.applyAll_eq hp (categories setting) ht.hasTexts ops
  refine ⟨fun setting setting' => ?_, heq, fun l hl => ?_⟩
  · rw [heq, heq, List.map_map, List.map_map]
    rfl
  · rw [heq] at hl
    obtain ⟨o, -, rfl⟩ := List.mem_map.mp hl
    exact Categories.print_none o.events

/-- An output for every line. -/
def everyLine : Printer := ⟨.full, fun _ => true⟩

/-- A switched-on machine that does a little of everything, with the whole log and without
one. -/
theorem logging_observes_all_and_none :
    ∃ m, create #[0xC3, 0x0F, 0xE3, 0x9E, 0x00, 0x12] .modern false
        .closed = .ok m ∧
      m.table.OfStandard ∧ everyLine.TakesAll ∧
      let ops : List Operation := [.step, .run 2, .tick, .keyDown 3, .keyUp 99, .press "W",
        .release "zz", .store 0x1FF 5, .reset]
      (Work.applyAll (LogSetting.ofSetting (some "all")).categories everyLine m ops).map
          (fun l => (l.machine, l.result)) =
        (Work.applyAll (LogSetting.ofSetting none).categories everyLine m ops).map
          fun l => (l.machine, l.result) := by
  obtain ⟨m, hc, hm, -⟩ := create_start #[0xC3, 0x0F, 0xE3, 0x9E, 0x00, 0x12]
    (by decide) (by decide) .modern false .closed
  have ht : m.table.OfStandard := by
    rw [hm.table]
    exact Standard.table_ofStandard
  have hp : everyLine.TakesAll := fun _ => rfl
  exact ⟨m, hc, ht, hp, (logging_observes ht hp _).1 (some "all") none⟩

end Machine

end Chip8
