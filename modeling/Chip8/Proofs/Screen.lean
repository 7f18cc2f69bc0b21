import Chip8.Proofs.Lists
import Chip8.Screen
import Mathlib.Data.Int.Bitwise
import Mathlib.Data.List.Nodup

/-!
What drawing does to a screen, pixel by pixel. Places that are toggled one after the other put
each pixel out or on as often as they fall on it (`hits`, `pixel_plot`), and the collision flag
tells whether one of them fell on a lit pixel, which may have been lit by an earlier one
(`plot_flag`). A sprite that is no larger than the screen does not fall on itself
(`hits_dots_le_one`), so that its flag compares the screen before with the one after.
-/

namespace Chip8

attribute [local instance (high)] Zero.ofOfNat0

namespace Screen

variable {w h : Nat}

/-- The pixel of a column and a row. -/
def pixel (s : Screen w h) (q : Fin w × Fin h) : Bool := (s.rows.get q.2).get q.1

variable [NeZero w] [NeZero h]

/-- The pixel that coordinates mean. -/
def cellOf (p : Int × Int) : Fin w × Fin h := (wrap w p.1, wrap h p.2)

/-- How many of the places are at a pixel. -/
def hits (q : Fin w × Fin h) (ps : List (Int × Int)) : Nat := (ps.map cellOf).count q

theorem lit_eq_pixel (s : Screen w h) (x y : Int) : s.lit x y = s.pixel (cellOf (x, y)) := rfl

@[simp] theorem pixel_toggle (s : Screen w h) (p : Int × Int) (q : Fin w × Fin h) :
    (s.toggle p.1 p.2).pixel q = (s.pixel q ^^ decide (cellOf p = q)) := by
  obtain ⟨c, r⟩ := q
  simp only [pixel, toggle, get_set, cellOf, Prod.mk.injEq]
  by_cases hr : wrap h p.2 = r
  · subst hr
    rw [if_pos rfl, get_set]
    by_cases hc : wrap w p.1 = c
    · subst hc
      simp [lit]
    · simp [hc]
  · simp [hr]

@[simp] theorem hits_cons (q : Fin w × Fin h) (p : Int × Int) (ps : List (Int × Int)) :
    hits q (p :: ps) = hits q ps + if cellOf p = q then 1 else 0 := by
  simp [hits, List.count_cons]

theorem hits_pos {q : Fin w × Fin h} {ps : List (Int × Int)} :
    0 < hits q ps ↔ ∃ p ∈ ps, cellOf p = q := by
  simp [hits, List.count_pos_iff]

theorem pixel_plot (s : Screen w h) (ps : List (Int × Int)) (q : Fin w × Fin h) :
    (s.plot ps).1.pixel q = (s.pixel q ^^ decide (hits q ps % 2 = 1)) := by
  induction ps generalizing s with
  | nil => simp [plot, hits]
  | cons p ps ih =>
    show ((s.toggle p.1 p.2).plot ps).1.pixel q = _
    rw [ih, pixel_toggle, hits_cons, Bool.xor_assoc]
    congr 1
    by_cases hq : (cellOf p : Fin w × Fin h) = q
    · rcases Nat.mod_two_eq_zero_or_one (hits q ps) with h2 | h2 <;> simp [hq, h2, Nat.add_mod]
    · simp [hq]

/-- The flag of places toggled in turn: one fell on a lit pixel, or on one that an earlier place
had toggled. -/
theorem plot_flag (s : Screen w h) (ps : List (Int × Int)) :
    (s.plot ps).2 = true ↔
      ∃ q : Fin w × Fin h, 2 ≤ hits q ps ∨ 1 ≤ hits q ps ∧ s.pixel q = true := by
  induction ps generalizing s with
  | nil => simp [plot, hits]
  | cons p ps ih =>
    show (s.lit p.1 p.2 || ((s.toggle p.1 p.2).plot ps).2) = true ↔ _
    rw [Bool.or_eq_true, ih, lit_eq_pixel]
    constructor
    · rintro (hlit | ⟨q, hq⟩)
      · refine ⟨cellOf p, Or.inr ⟨?_, hlit⟩⟩
        rw [hits_cons, if_pos rfl]
        omega
      · refine ⟨q, ?_⟩
        rw [pixel_toggle] at hq
        rw [hits_cons]
        by_cases hp : (cellOf p : Fin w × Fin h) = q
        · rw [if_pos hp]
          omega
        · simpa [hp] using hq
    · rintro ⟨q, hq⟩
      rw [hits_cons] at hq
      by_cases hp : (cellOf p : Fin w × Fin h) = q
      · rw [if_pos hp] at hq
        cases hlit : s.pixel q with
        | true => exact Or.inl (by rw [hp, hlit])
        | false =>
          -- The place lights the pixel, and the next one on it puts it out.
          have hagain : 1 ≤ hits q ps := by
            rcases hq with h2 | ⟨_, hl⟩
            · omega
            · simp [hlit] at hl
          refine Or.inr ⟨q, Or.inr ⟨hagain, ?_⟩⟩
          rw [pixel_toggle, hlit]
          simp [hp]
      · refine Or.inr ⟨q, ?_⟩
        rw [pixel_toggle]
        simpa [hp] using hq

/-- Where a sprite has its set bits. -/
theorem mem_dots {x y : Int} {lines : List Int} {p : Int × Int} :
    p ∈ dots x y lines ↔ ∃ (k : Nat) (line : Int), lines[k]? = some line ∧
      ∃ j < spriteWidth, lineBit line j = true ∧ p = (x + (j : Int), y + (k : Int)) := by
  induction lines generalizing y with
  | nil => simp [dots]
  | cons line lines ih =>
    rw [dots, List.mem_append, ih]
    simp only [lineDots, List.mem_map, List.mem_filter, List.mem_range]
    constructor
    · rintro (⟨j, ⟨hj, hb⟩, rfl⟩ | ⟨k, l, hk, j, hj, hb, rfl⟩)
      · exact ⟨0, line, rfl, j, hj, hb, by simp⟩
      · exact ⟨k + 1, l, hk, j, hj, hb, congrArg (Prod.mk _) (by omega)⟩
    · rintro ⟨k, l, hk, j, hj, hb, rfl⟩
      cases k with
      | zero =>
        cases hk
        exact Or.inl ⟨j, ⟨hj, hb⟩, by simp⟩
      | succ k => exact Or.inr ⟨k, l, hk, j, hj, hb, congrArg (Prod.mk _) (by omega)⟩

theorem nodup_lineDots (x y line : Int) : (lineDots x y line).Nodup := by
  refine (List.nodup_range.filter _).map ?_
  intro i j hij
  simp only [Prod.mk.injEq] at hij
  omega

theorem nodup_dots (x y : Int) (lines : List Int) : (dots x y lines).Nodup := by
  induction lines generalizing y with
  | nil => exact List.nodup_nil
  | cons line lines ih =>
    refine (nodup_lineDots x y line).append (ih (y + 1)) ?_
    -- The lines below are at greater ordinates.
    intro p hp hq
    obtain ⟨j, _, rfl⟩ := List.mem_map.mp hp
    obtain ⟨k, _, _, i, _, _, he⟩ := mem_dots.mp hq
    have hy := congrArg Prod.snd he
    simp only at hy
    omega

theorem wrap_eq_iff {n : Nat} [NeZero n] {a : Nat} {c : Fin n} :
    wrap n (a : Int) = c ↔ c.val = a % n := by
  rw [Fin.ext_iff, eq_comm]
  simp only [wrap]
  omega

/-- Places of one sprite are less than an axis apart. -/
theorem eq_of_wrap_eq {n : Nat} [NeZero n] {a : Int} {i j : Nat} (hi : i < n) (hj : j < n)
    (h : wrap n (a + i) = wrap n (a + j)) : i = j := by
  have hn : (n : Int) ≠ 0 := by omega
  have h0 := Int.emod_nonneg (a + i) hn
  have h1 := Int.emod_nonneg (a + j) hn
  have he : (a + i) % n = (a + j) % n := by
    have := congrArg Fin.val h
    simp only [wrap] at this
    omega
  have hd : (n : Int) ∣ (i - j : Int) := by
    have := Int.dvd_of_emod_eq_zero (Int.emod_eq_emod_iff_emod_sub_eq_zero.mp he)
    rwa [show (a + i - (a + j) : Int) = i - j by omega] at this
  have := Int.eq_zero_of_dvd_of_natAbs_lt_natAbs hd (by omega)
  omega

/-- A sprite that is no larger than the screen does not fall on itself. -/
theorem hits_dots_le_one (hw : spriteWidth ≤ w) {lines : List Int} (hh : lines.length ≤ h)
    (x y : Int) (q : Fin w × Fin h) : hits q (dots x y lines) ≤ 1 := by
  have hcells : ((dots x y lines).map (cellOf : Int × Int → Fin w × Fin h)).Nodup := by
    refine (nodup_dots x y lines).map_on ?_
    intro p hp p' hp' he
    obtain ⟨k, _, hk, j, hj, _, rfl⟩ := mem_dots.mp hp
    obtain ⟨k', _, hk', j', hj', _, rfl⟩ := mem_dots.mp hp'
    have hkl := (List.getElem?_eq_some_iff.mp hk).1
    have hkl' := (List.getElem?_eq_some_iff.mp hk').1
    rw [eq_of_wrap_eq (by omega) (by omega) (congrArg Prod.fst he),
      eq_of_wrap_eq (by omega) (by omega) (congrArg Prod.snd he)]
  exact List.nodup_iff_count_le_one.mp hcells q

/-- A pixel that is hit once changes, and no other does. -/
theorem pixel_draw (hw : spriteWidth ≤ w) {lines : List Int} (hh : lines.length ≤ h)
    (s : Screen w h) (x y : Int) (q : Fin w × Fin h) :
    (s.draw x y lines).1.pixel q = (s.pixel q ^^ decide (0 < hits q (dots x y lines))) := by
  have hle := hits_dots_le_one hw hh x y q
  have hodd : hits q (dots x y lines) % 2 = 1 ↔ 0 < hits q (dots x y lines) := by omega
  rw [draw, pixel_plot, decide_eq_decide.mpr hodd]

theorem draw_flag (hw : spriteWidth ≤ w) {lines : List Int} (hh : lines.length ≤ h)
    (s : Screen w h) (x y : Int) :
    (s.draw x y lines).2 = true ↔
      ∃ q : Fin w × Fin h, 0 < hits q (dots x y lines) ∧ s.pixel q = true := by
  rw [draw, plot_flag]
  constructor
  · rintro ⟨q, h2 | h1⟩
    · have hle := hits_dots_le_one hw hh x y q
      omega
    · exact ⟨q, h1⟩
  · rintro ⟨q, h1⟩
    exact ⟨q, Or.inr h1⟩

/-- The bits of a line from the eighth down; those of the two's complement, if it is negative. -/
theorem lineBit_eq_testBit (line : Int) (j : Nat) : lineBit line j = line.testBit (7 - j) := by
  cases line with
  | ofNat n =>
    show decide ((n : Int) >>> (7 - j) % 2 = 1) = n.testBit (7 - j)
    rw [Nat.testBit_eq_decide_div_mod_eq, ← Int.natCast_shiftRight, Nat.shiftRight_eq_div_pow,
      decide_eq_decide]
    omega
  | negSucc n =>
    show decide (Int.negSucc (n >>> (7 - j)) % 2 = 1) = !n.testBit (7 - j)
    rw [Nat.testBit_eq_decide_div_mod_eq, Nat.shiftRight_eq_div_pow, ← decide_not,
      decide_eq_decide]
    omega

theorem lineBit_toNat (b : UInt8) (j : Nat) :
    lineBit (b.toNat : Int) j = b.toNat.testBit (7 - j) := lineBit_eq_testBit b.toNat j

end Screen

end Chip8
