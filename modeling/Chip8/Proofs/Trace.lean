import Chip8.Trace
import Mathlib.Data.List.DropRight

/-!
What a trace holds. After any records and clearings these are the last of the entries
recorded since the last clearing, as many as fit, and a limit takes the last of those
(`actAll_shows`).
-/

namespace Chip8

namespace Trace

/-- What is done with a trace. -/
inductive Action where
  | record (e : Entry)
  | clear

def act (t : Trace) : Action → Trace
  | .record e => t.record e
  | .clear => t.clear

def actAll (t : Trace) (as : List Action) : Trace := as.foldl act t

def recordAll (t : Trace) (es : List Entry) : Trace := es.foldl record t

/-- The entries recorded since the last clearing, behind those of `es`. -/
def sinceClear (es : List Entry) : List Action → List Entry
  | [] => es
  | .record e :: as => sinceClear (es ++ [e]) as
  | .clear :: as => sinceClear [] as

/-- The trace was given `es` since it was empty, oldest first. -/
def Holds (t : Trace) (es : List Entry) : Prop := t.entries = es.reverse.take t.capacity

variable {t : Trace} {es : List Entry}

theorem holds_nil (capacity : Nat) : (Trace.mk capacity []).Holds [] := by simp [Holds]

theorem Holds.record (h : t.Holds es) (e : Entry) : (t.record e).Holds (es ++ [e]) := by
  show (e :: t.entries).take t.capacity = (es ++ [e]).reverse.take t.capacity
  rw [h, List.reverse_concat]
  cases t.capacity with
  | zero => rfl
  | succ c =>
    rw [List.take_succ_cons, List.take_succ_cons, List.take_take, Nat.min_eq_left (Nat.le_succ c)]

theorem Holds.recordAll (h : t.Holds es) (es' : List Entry) :
    (t.recordAll es').Holds (es ++ es') := by
  induction es' generalizing t es with
  | nil => simpa [Trace.recordAll] using h
  | cons e es' ih =>
    rw [List.append_cons]
    exact ih (h.record e)

theorem Holds.actAll (h : t.Holds es) (as : List Action) :
    (t.actAll as).Holds (sinceClear es as) := by
  induction as generalizing t es with
  | nil => exact h
  | cons a as ih =>
    cases a with
    | record e => exact ih (h.record e)
    | clear => exact ih (by simp [Holds, act, clear])

theorem recordAll_append (t : Trace) (es es' : List Entry) :
    t.recordAll (es ++ es') = (t.recordAll es).recordAll es' := List.foldl_append

@[simp] theorem recordAll_capacity (t : Trace) (es : List Entry) :
    (t.recordAll es).capacity = t.capacity := by
  induction es generalizing t with
  | nil => rfl
  | cons e es ih => exact ih (t.record e)

@[simp] theorem actAll_capacity (t : Trace) (as : List Action) :
    (t.actAll as).capacity = t.capacity := by
  induction as generalizing t with
  | nil => rfl
  | cons a as ih =>
    rw [← show (t.act a).capacity = t.capacity by cases a <;> rfl]
    exact ih (t.act a)

/-- Without a limit: the last entries, as many as fit. -/
theorem Holds.list_none (h : t.Holds es) : t.list none = es.rtake t.capacity := by
  rw [list, h, List.rtake_eq_reverse_take_reverse]

/-- With a limit: the last of those, and none for a limit below zero. -/
theorem list_some (t : Trace) (limit : Int) :
    t.list (some limit) = (t.list none).rtake limit.toNat := by
  rw [list, list, List.rtake_eq_reverse_take_reverse, List.reverse_reverse]

theorem Holds.last? (h : t.Holds es) (hc : 0 < t.capacity) : t.last? = es.getLast? := by
  rw [Trace.last?, h, List.head?_take, if_neg (Nat.ne_of_gt hc), List.head?_reverse]

theorem create_eq_ok {capacity : Int} (h : create capacity = .ok t) :
    0 < capacity ∧ t = ⟨capacity.toNat, []⟩ := by
  unfold create at h
  split at h
  · cases h
  · split at h
    · cases h
    · cases h
      exact ⟨by omega, rfl⟩

/-- What a trace of a capacity lists after `es` was recorded: without a limit the last of
them, as many as fit, with a limit the last of those, and the very last one. -/
structure Shows (t : Trace) (capacity : Nat) (es : List Entry) : Prop where
  all : t.list none = es.rtake capacity
  limited : ∀ limit : Int, t.list (some limit) = (es.rtake capacity).rtake limit.toNat
  last : t.last? = es.getLast?

theorem Holds.shows (h : t.Holds es) (hc : 0 < t.capacity) : t.Shows t.capacity es where
  all := h.list_none
  limited limit := by rw [list_some, h.list_none]
  last := h.last? hc

/-- **A recorder shows the last entries since it was cleared.** -/
theorem actAll_shows {capacity : Int} (h : create capacity = .ok t) (as : List Action) :
    (t.actAll as).Shows capacity.toNat (sinceClear [] as) := by
  obtain ⟨hpos, rfl⟩ := create_eq_ok h
  have hcapacity : ((⟨capacity.toNat, []⟩ : Trace).actAll as).capacity = capacity.toNat :=
    actAll_capacity _ as
  have hshows := ((holds_nil capacity.toNat).actAll as).shows (by rw [hcapacity]; omega)
  rwa [hcapacity] at hshows

end Trace

end Chip8
