import Chip8.Keypad.Panel
import Mathlib.Data.List.Induction

/-!
A keypad and those who listen to it. An edge makes a round: it tells the listeners registered
when it began, up to the first that fails (`tell_eq`), and whatever they do the key is set
(`perform_key`). So the keys are told from the edges alone (`rounds_and_keys`).
-/

namespace Chip8

variable {α : Type}

/-- What is done about notes, one after the other, if no failure ends the round. -/
def Conduct.effects (react : Conduct α) (told : List (Note α)) : List (Note α) → List (Effect α)
  | [] => []
  | note :: notes => react told note :: effects react (told ++ [note]) notes

/-- What is done to a keypad with listeners. -/
inductive PanelOperation (α : Type) where
  | edge (index : Int) (pressed : Bool)
  | named (name : String) (pressed : Bool)
  | reset
  | listen (l : α)

namespace PanelOperation

/-- The key that an operation moves, and where to. -/
def moves? : PanelOperation α → Option (Fin 16 × Bool)
  | .edge n pressed => (Keypad.index n).toOption.map (·, pressed)
  | .named name pressed => (Keypad.ofName? name).map (·, pressed)
  | .reset | .listen _ => none

/-- Where an operation moves a key to. -/
def direction? (i : Fin 16) (op : PanelOperation α) : Option Bool :=
  op.moves?.bind fun move => if move.1 = i then some move.2 else none

def isReset : PanelOperation α → Bool
  | .reset => true
  | _ => false

/-- What an edge answers if no listener fails. -/
def answer : PanelOperation α → Option Bool
  | .named .. => some true
  | _ => none

end PanelOperation

namespace Keypad

theorem index_of_misfit {n : Int} (h : ¬(0 ≤ n ∧ n < 16)) : index n = .error (.keyIndex n) :=
  dif_neg h

@[simp] theorem set_get (k : Keypad) (i j : Fin 16) (pressed : Bool) :
    (k.set i pressed).keys.get j = if j = i then pressed else k.keys.get j :=
  Vector.getElem_ofFn j.isLt

@[simp] theorem released_get (i : Fin 16) : released.keys.get i = false := by
  simp [released, Vector.get]

end Keypad

namespace Panel

def perform (p : Panel α) (react : Conduct α) :
    PanelOperation α → Panel α × Except PanelError (Option Bool)
  | .edge n pressed =>
    let (p, result, _) := p.edge react n pressed
    (p, result.map fun () => none)
  | .named name pressed =>
    let (p, result, _) := p.named react name pressed
    (p, result.map some)
  | .reset => (p.reset, .ok none)
  | .listen l => (p.listen l, .ok none)

/-- An operation that fails does not end the sequence. -/
def performAll (p : Panel α) (react : Conduct α) (ops : List (PanelOperation α)) : Panel α :=
  ops.foldl (fun p op => (p.perform react op).1) p

/-- **A round.** -/
theorem tell_eq (p : Panel α) (react : Conduct α) (i : Fin 16) (pressed : Bool) (ls : List α) :
    let notes := ls.map (⟨·, i, pressed, p.keypad⟩)
    let effects := react.effects p.notes notes
    let made := effects.findIdx (·.failure.isSome) + 1
    p.tell react i pressed ls =
      (⟨p.keypad, p.listeners ++ (effects.take made).flatMap (·.attached),
          p.notes ++ notes.take made⟩,
        (effects.findSome? (·.failure)).elim (.ok ()) fun text => .error (.listener text)) := by
  induction ls generalizing p with
  | nil => simp [tell, Conduct.effects]
  | cons l ls ih =>
    cases hf : (react p.notes ⟨l, i, pressed, p.keypad⟩).failure with
    | some text => simp [tell, hear, Conduct.effects, List.findIdx_cons, hf]
    | none =>
      -- The round goes on behind a listener that did not fail.
      simp [tell, hear, Conduct.effects, List.findIdx_cons, hf, ih]

/-- An edge that finds its key makes a round. -/
theorem perform_of_moves {op : PanelOperation α} {i : Fin 16} {pressed : Bool}
    (h : op.moves? = some (i, pressed)) (p : Panel α) (react : Conduct α) :
    p.perform react op =
      ((p.set react i pressed).1, (p.set react i pressed).2.1.map fun () => op.answer) := by
  cases op with
  | edge n pressed' =>
    simp only [PanelOperation.moves?] at h
    simp only [perform, edge, PanelOperation.answer]
    cases hi : Keypad.index n with
    | error f => simp [hi, Except.toOption] at h
    | ok j =>
      obtain ⟨rfl, rfl⟩ : j = i ∧ pressed' = pressed := by simpa [hi, Except.toOption] using h
      rfl
  | named name pressed' =>
    simp only [PanelOperation.moves?] at h
    simp only [perform, named, PanelOperation.answer]
    cases hi : Keypad.ofName? name with
    | none => simp [hi] at h
    | some j =>
      obtain ⟨rfl, rfl⟩ : j = i ∧ pressed' = pressed := by simpa [hi] using h
      dsimp only
      cases (p.set react j pressed').2.1 <;> rfl
  | reset => cases h
  | listen l => cases h

@[simp] theorem set_keypad (p : Panel α) (react : Conduct α) (i : Fin 16) (pressed : Bool) :
    (p.set react i pressed).1.keypad = p.keypad.set i pressed := by
  simp [set, tell_eq]

/-- An edge that finds no key changes nothing. -/
theorem perform_of_still {op : PanelOperation α} (h : op.moves? = none) (hr : op.isReset = false)
    (p : Panel α) (react : Conduct α) : (p.perform react op).1.keypad = p.keypad := by
  cases op with
  | edge n pressed =>
    cases hi : Keypad.index n with
    | error f => simp [perform, edge, hi]
    | ok j => simp [PanelOperation.moves?, hi, Except.toOption] at h
  | named name pressed =>
    cases hi : Keypad.ofName? name with
    | none => simp [perform, named, hi]
    | some j => simp [PanelOperation.moves?, hi] at h
  | reset => cases hr
  | listen l => rfl

/-- What an operation does to a key, whatever the listeners do. -/
theorem perform_key (p : Panel α) (react : Conduct α) (op : PanelOperation α) (i : Fin 16) :
    (p.perform react op).1.keypad.keys.get i =
      if op.isReset then false else (op.direction? i).getD (p.keypad.keys.get i) := by
  cases hm : op.moves? with
  | none =>
    cases hr : op.isReset with
    | false => simp [perform_of_still hm hr, PanelOperation.direction?, hm]
    | true =>
      cases op with
      | reset => exact Keypad.released_get i
      | _ => cases hr
  | some move =>
    obtain ⟨j, pressed⟩ := move
    have hr : op.isReset = false := by
      cases op with
      | reset => cases hm
      | _ => rfl
    rw [perform_of_moves hm, set_keypad, Keypad.set_get]
    by_cases hj : i = j
    · simp [PanelOperation.direction?, hm, hr, hj]
    · simp [PanelOperation.direction?, hm, hr, hj, Ne.symm hj]

/-- A key is where the last edge since the last reset moved it. -/
theorem performAll_key (react : Conduct α) (ops : List (PanelOperation α)) (i : Fin 16) :
    (initial.performAll react ops).keypad.keys.get i =
      ((ops.reverse.takeWhile (!·.isReset)).findSome? (·.direction? i)).getD false := by
  -- On the last operation: the earlier ones count only where it says nothing of the key.
  induction ops using List.reverseRecOn with
  | nil => exact Keypad.released_get i
  | append_singleton ops op ih =>
    have hlast : initial.performAll react (ops ++ [op]) =
        ((initial.performAll react ops).perform react op).1 := by simp [performAll]
    rw [hlast, perform_key, ih]
    cases hr : op.isReset with
    | true => simp [hr]
    | false => cases hd : op.direction? i <;> simp [hr, hd]

/-- **Rounds and keys.** Behind any operations: an edge of no key is refused, one of an unknown
name is passed over, and neither tells a listener or moves a key; every other edge sets its key
and then tells, once and in their order, the listeners registered when it began, up to the first
that fails, whose failure it answers, and those registered meanwhile hear later edges; a reset
releases all keys and tells nobody. So a key is where the last edge since the last reset moved
it, and released without one. -/
theorem rounds_and_keys (react : Conduct α) (ops : List (PanelOperation α)) :
    let p := initial.performAll react ops
    (∀ n pressed, ¬(0 ≤ n ∧ n < 16) →
      p.perform react (.edge n pressed) = (p, .error (.fault (.keyIndex n)))) ∧
    (∀ name pressed, Keypad.ofName? name = none →
      p.perform react (.named name pressed) = (p, .ok (some false))) ∧
    (∀ (op : PanelOperation α) i pressed, op.moves? = some (i, pressed) →
      let keypad := p.keypad.set i pressed
      let notes := p.listeners.map (⟨·, i, pressed, keypad⟩)
      let effects := react.effects p.notes notes
      let made := effects.findIdx (·.failure.isSome) + 1
      (∀ j, keypad.keys.get j = if j = i then pressed else p.keypad.keys.get j) ∧
      p.perform react op =
        (⟨keypad, p.listeners ++ (effects.take made).flatMap (·.attached),
            p.notes ++ notes.take made⟩,
          (effects.findSome? (·.failure)).elim (.ok op.answer)
            fun text => .error (.listener text))) ∧
    (p.perform react .reset = (⟨.released, p.listeners, p.notes⟩, .ok none) ∧
      ∀ i, Keypad.released.keys.get i = false) ∧
    (∀ l, p.perform react (.listen l) =
      (⟨p.keypad, p.listeners ++ [l], p.notes⟩, .ok none)) ∧
    ∀ i, p.keypad.keys.get i =
      ((ops.reverse.takeWhile (!·.isReset)).findSome? (·.direction? i)).getD false := by
  intro p
  refine ⟨?_, ?_, ?_, ⟨rfl, Keypad.released_get⟩, fun l => rfl, performAll_key react ops⟩
  · intro n pressed hn
    simp [perform, edge, Keypad.index_of_misfit hn, Except.map]
  · intro name pressed hname
    simp [perform, named, hname, Except.map]
  · intro op i pressed hm
    refine ⟨fun j => p.keypad.set_get i j pressed, ?_⟩
    rw [perform_of_moves hm]
    simp only [set, tell_eq]
    cases List.findSome? _ _ <;> rfl

/-- A listener that fails leaves the key set, and one that was added hears the next edge. -/
example :
    let p := initial.performAll .standard
      [.listen ⟨.attach, "a"⟩, .listen ⟨.record, "b"⟩, .edge 3 true, .listen ⟨.fail, "c"⟩,
        .listen ⟨.record, "d"⟩, .named "W" true]
    p.notes.map (·.listener.tag) = ["a", "b", "a", "b", "a+", "c"] ∧
      p.keypad.isPressed 5 = true := by decide

end Panel

end Chip8
