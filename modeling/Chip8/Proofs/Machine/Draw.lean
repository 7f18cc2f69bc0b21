import Chip8.Proofs.Machine.Footprint
import Chip8.Proofs.Screen

/-!
`Dxyn` on the screen of the machine. Its sprite has at most fifteen lines and does not fall on
itself on 64 columns and 32 rows, so that a pixel changes where the sprite has a set bit
(`Covers`) and nowhere else, and the flag is a comparison of the screen before with the one
after (`step_draw`), although it is computed while pixels are toggled.
-/

namespace Chip8

namespace Machine

/-- The sprite of a word has a set bit at a pixel, around both axes and the end of memory. -/
def Covers (m : Machine) (w : Word) (q : Fin 64 × Fin 32) : Prop :=
  ∃ k < w.n, ∃ j < 8,
    q.1.val = ((m.vx w).toNat + j) % 64 ∧ q.2.val = ((m.vy w).toNat + k) % 32 ∧
      (m.memory.read ((m.regs.i + k) % 0x1000)).toNat.testBit (7 - j) = true

instance (m : Machine) (w : Word) : DecidablePred (m.Covers w) := fun _ =>
  inferInstanceAs (Decidable (∃ _ < _, _))

/-- The lines of the sprite that a word draws. -/
def spriteLines (m : Machine) (w : Word) : List Int :=
  (m.memory.block m.regs.i w.n).map fun b => (b.toNat : Int)

/-- The places that a word toggles. -/
def spriteDots (m : Machine) (w : Word) : List (Int × Int) :=
  Screen.dots (m.vx w).toNat (m.vy w).toNat (m.spriteLines w)

theorem length_spriteLines_le (m : Machine) (w : Word) : (m.spriteLines w).length ≤ 32 := by
  simp only [spriteLines, Memory.block, List.length_map, List.length_range, Word.n]
  omega

theorem getElem?_spriteLines (m : Machine) {w : Word} {k : Nat} {line : Int} :
    (m.spriteLines w)[k]? = some line ↔
      k < w.n ∧ line = (m.memory.read ((m.regs.i + k) % 0x1000)).toNat := by
  have hread : m.memory.read ((m.regs.i + k) % 0x1000) = m.memory.read (m.regs.i + k) :=
    m.memory.read_congr (by omega)
  rw [hread]
  by_cases hk : k < w.n
  · simp [spriteLines, Memory.block, hk, eq_comm]
  · simp [spriteLines, Memory.block, hk]

theorem hits_spriteDots_pos {m : Machine} {w : Word} {q : Fin 64 × Fin 32} :
    0 < Screen.hits q (m.spriteDots w) ↔ m.Covers w q := by
  rw [Screen.hits_pos]
  have hcell (j k : Nat) : Screen.cellOf (((m.vx w).toNat + j : Int), ((m.vy w).toNat + k : Int)) =
      q ↔ q.1.val = ((m.vx w).toNat + j) % 64 ∧ q.2.val = ((m.vy w).toNat + k) % 32 := by
    rw [Screen.cellOf, Prod.ext_iff]
    exact and_congr Screen.wrap_eq_iff Screen.wrap_eq_iff
  constructor
  · rintro ⟨p, hp, hq⟩
    obtain ⟨k, line, hl, j, hj, hbit, rfl⟩ := Screen.mem_dots.mp hp
    obtain ⟨hk, rfl⟩ := m.getElem?_spriteLines.mp hl
    rw [Screen.lineBit_toNat] at hbit
    obtain ⟨hx, hy⟩ := (hcell j k).mp hq
    exact ⟨k, hk, j, hj, hx, hy, hbit⟩
  · rintro ⟨k, hk, j, hj, hx, hy, hbit⟩
    rw [← Screen.lineBit_toNat] at hbit
    exact ⟨_, Screen.mem_dots.mpr
      ⟨k, _, m.getElem?_spriteLines.mpr ⟨hk, rfl⟩, j, hj, hbit, rfl⟩, (hcell j k).mpr ⟨hx, hy⟩⟩

theorem drawSprite_pixel (m : Machine) (w : Word) (q : Fin 64 × Fin 32) :
    (m.drawSprite w).machine.screen.pixel q = (m.screen.pixel q ^^ decide (m.Covers w q)) := by
  rw [← decide_eq_decide.mpr hits_spriteDots_pos]
  exact Screen.pixel_draw (by decide) (m.length_spriteLines_le w) m.screen _ _ q

theorem drawSprite_flag (m : Machine) (w : Word) :
    ∃ collided : Bool,
      (m.drawSprite w).machine.regs.v.get 15 = (if collided then 1 else 0) ∧
      (collided = true ↔ ∃ q, m.Covers w q ∧ m.screen.pixel q = true) := by
  refine ⟨_, setV_get .., ?_⟩
  simp only [← hits_spriteDots_pos]
  exact Screen.draw_flag (by decide) (m.length_spriteLines_le w) m.screen _ _

/-- A lit pixel that the sprite covers is the same as one that is put out. -/
theorem collision_iff {before after : Screen 64 32} {covers : Fin 64 × Fin 32 → Prop}
    [DecidablePred covers] (h : ∀ q, after.pixel q = (before.pixel q ^^ decide (covers q))) :
    (∃ q, covers q ∧ before.pixel q = true) ↔
      ∃ q, before.pixel q = true ∧ after.pixel q = false := by
  refine exists_congr fun q => ?_
  rw [h q]
  by_cases hq : covers q <;> simp [hq]

/-- **Drawing a sprite.** Every pixel is toggled that the sprite covers, and no other; the flag
tells whether one of them was lit, which is to say whether a pixel was put out; the index
register and all registers but the flag stay, and the step answers that it drew, also if the
sprite has no lines. -/
theorem step_draw {m : Machine} (h : m.WellFormed) (ha : m.awaiting = false)
    (hw : m.fetch.group = 0xD) :
    m.step.result = .ok true ∧
    (∀ q, m.step.machine.screen.pixel q =
      (m.screen.pixel q ^^ decide (m.Covers m.fetch q))) ∧
    (∃ collided : Bool,
      m.step.machine.regs.v.get 15 = (if collided then 1 else 0) ∧
      (collided = true ↔ ∃ q, m.Covers m.fetch q ∧ m.screen.pixel q = true) ∧
      (collided = true ↔
        ∃ q, m.screen.pixel q = true ∧ m.step.machine.screen.pixel q = false)) ∧
    m.step.machine.regs.i = m.regs.i ∧
    ∀ k ≠ 15, m.step.machine.regs.v.get k = m.regs.v.get k := by
  have hm := (wellFormed_iff m).mp h
  obtain ⟨hok, hstep⟩ := hm.step_of_fits ha .drw nofun hw rfl
  have hpixel (q) : m.step.machine.screen.pixel q =
      (m.screen.pixel q ^^ decide (m.Covers m.fetch q)) := by
    rw [hstep]
    exact m.advance.drawSprite_pixel m.fetch q
  obtain ⟨collided, hflag, hlit⟩ := m.advance.drawSprite_flag m.fetch
  refine ⟨hok, hpixel, ⟨collided, ?_, hlit, hlit.trans (collision_iff hpixel)⟩, ?_, ?_⟩
  · rw [hstep]
    exact hflag
  · rw [hstep]
    rfl
  · intro k hk
    rw [hstep]
    show (({ m.advance with screen := _ } : Machine).setFlag _).regs.v.get k = _
    simp [Ne.symm hk]

/-- A zero drawn over the lower right corner, with the flag register for both coordinates and an
index beyond memory: it comes out at the other three corners too, and the flag is cleared. -/
theorem step_draw_over_the_corner :
    ∃ start m : Machine,
      create #[0xDF, 0xF5] .modern true .closed = .ok start ∧
      m = { start with regs := { Registers.initial with v := .replicate 16 62, i := 0x1000 } } ∧
      m.WellFormed ∧ m.awaiting = false ∧ m.fetch.group = 0xD ∧
      m.step.result = .ok true ∧ m.step.machine.screen.pixel (1, 0) = true ∧
      m.step.machine.screen.pixel (0, 0) = false ∧ m.step.machine.regs.v.get 15 = 0 := by
  obtain ⟨start, m, hc, hm, hw, hregs, ha, _, hscreen, hg, hword⟩ :=
    create_with #[0xDF, 0xF5] (by decide) (by decide) .modern true .closed
      (r := { Registers.initial with v := .replicate 16 62, i := 0x1000 })
      ⟨by decide, by decide, by decide, by decide⟩
  have hfetch : m.fetch = 0xDFF5 := by
    rw [fetch, hregs]
    exact hword
  have hblank (q) : m.screen.pixel q = false := by
    rw [hscreen]
    simp [Screen.pixel, Screen.blank, Vector.get]
  have hi : m.regs.i = 0x1000 := by rw [hregs]
  have hv : m.regs.v.get 15 = 62 := by
    rw [hregs]
    exact Vector.getElem_replicate _
  have hglyph : m.memory.read 2 = 0x90 := by
    rw [hg.below _ (by decide), Memory.read_initial]
    rfl
  have hgroup : m.fetch.group = 0xD := by rw [hfetch]; rfl
  obtain ⟨hok, hpixel, ⟨collided, hflag, hlit, _⟩, _⟩ :=
    step_draw hw ha hgroup
  have hnone : collided = false := by
    rw [Bool.eq_false_iff]
    intro hc
    obtain ⟨q, _, hq⟩ := hlit.mp hc
    rw [hblank] at hq
    cases hq
  -- The third line of the glyph is `1001 0000`, and falls on the top row.
  have hcovers : m.Covers m.fetch (1, 0) ∧ ¬m.Covers m.fetch (0, 0) := by
    have hvx : m.vx 0xDFF5 = 62 := hv
    have hvy : m.vy 0xDFF5 = 62 := hv
    rw [hfetch, Covers, Covers, hvx, hvy, hi]
    refine ⟨⟨2, by decide, 3, by decide, rfl, rfl, ?_⟩, ?_⟩
    · show (m.memory.read 2).toNat.testBit _ = true
      rw [hglyph]
      decide
    · rintro ⟨k, hk, j, hj, hx, hy, hbit⟩
      replace hx : 0 = (62 + j) % 64 := hx
      replace hy : 0 = (62 + k) % 32 := hy
      replace hk : k < 5 := hk
      obtain rfl : j = 2 := by omega
      obtain rfl : k = 2 := by omega
      replace hbit : (m.memory.read 2).toNat.testBit 5 = true := hbit
      rw [hglyph] at hbit
      revert hbit
      decide
  refine ⟨start, m, hc, hm, hw, ha, hgroup, hok, ?_, ?_, ?_⟩
  · rw [hpixel, hblank, decide_eq_true hcovers.1]
    rfl
  · rw [hpixel, hblank, decide_eq_false hcovers.2]
    rfl
  · rw [hflag, hnone]
    rfl

end Machine

end Chip8
