import Chip8.Proofs.Screen
import Mathlib.Data.Fintype.Prod

/-!
Sprites on screens of any size, also on such as are narrower than a line or lower than the
sprite, which then falls on itself. How often it falls on a pixel is the number of its set bits
that lie there (`strikes_eq_hits`); this number decides about the pixel, and about the collision.
As it does not depend on what was drawn before, sprites may be drawn in any order, and a sprite
drawn twice leaves no trace (`draw_sprites`).
-/

namespace Chip8

attribute [local instance (high)] Zero.ofOfNat0

namespace Screen

variable {w h : Nat}

/-- A screen is its pixels. -/
theorem ext_pixel {s s' : Screen w h} (e : ∀ q, s.pixel q = s'.pixel q) : s = s' := by
  obtain ⟨rows⟩ := s
  obtain ⟨rows'⟩ := s'
  refine congrArg Screen.mk (Vector.ext fun r hr => Vector.ext fun c hc => ?_)
  exact e (⟨c, hc⟩, ⟨r, hr⟩)

/-- The number of pairs of a line and a column whose bit is set and falls on a pixel; bits are
those of the two's complement, which goes on forever. -/
def strikes (x y : Int) (lines : List Int) (q : Fin w × Fin h) : Nat :=
  (Finset.univ.filter fun p : Fin lines.length × Fin 8 =>
    lines[p.1].testBit (7 - p.2) = true ∧
      (x + p.2.val) % w = q.1.val ∧ (y + p.1.val) % h = q.2.val).card

variable [NeZero w] [NeZero h]

theorem cellOf_eq_iff {p : Int × Int} {q : Fin w × Fin h} :
    cellOf p = q ↔ p.1 % w = q.1.val ∧ p.2 % h = q.2.val := by
  have hw : (w : Int) ≠ 0 := Int.natCast_ne_zero.mpr (NeZero.ne w)
  have hh : (h : Int) ≠ 0 := Int.natCast_ne_zero.mpr (NeZero.ne h)
  have hx := Int.emod_nonneg p.1 hw
  have hy := Int.emod_nonneg p.2 hh
  simp only [cellOf, wrap, Prod.ext_iff, Fin.ext_iff]
  omega

/-- The places that a sprite toggles are those of its set bits, one for each. -/
theorem strikes_eq_hits (x y : Int) (lines : List Int) (q : Fin w × Fin h) :
    strikes x y lines q = hits q (dots x y lines) := by
  let place (p : Fin lines.length × Fin 8) : Int × Int := (x + p.2.val, y + p.1.val)
  have hplace : Function.Injective place := by
    intro p p' he
    simp only [place, Prod.mk.injEq] at he
    exact Prod.ext (Fin.ext (by omega)) (Fin.ext (by omega))
  have hhits : hits q (dots x y lines) =
      ((dots x y lines).filter fun p => cellOf p == q).toFinset.card := by
    rw [List.toFinset_card_of_nodup ((nodup_dots x y lines).filter _), hits,
      List.count_eq_countP, List.countP_map, List.countP_eq_length_filter]
    rfl
  rw [hhits, strikes, ← Finset.card_image_of_injective _ hplace]
  congr 1
  ext p
  simp only [Finset.mem_image, Finset.mem_filter, Finset.mem_univ, true_and, List.mem_toFinset,
    List.mem_filter, beq_iff_eq, cellOf_eq_iff, mem_dots]
  constructor
  · rintro ⟨⟨k, j⟩, ⟨hbit, hq⟩, rfl⟩
    exact ⟨⟨k, lines[k], List.getElem?_eq_getElem k.isLt, j, j.isLt,
      (lineBit_eq_testBit _ _).trans hbit, rfl⟩, hq⟩
  · rintro ⟨⟨k, line, hk, j, hj, hbit, rfl⟩, hq⟩
    obtain ⟨hlt, rfl⟩ := List.getElem?_eq_some_iff.mp hk
    exact ⟨(⟨k, hlt⟩, ⟨j, hj⟩), ⟨(lineBit_eq_testBit _ _).symm.trans hbit, hq⟩, rfl⟩

/-! ## One plot after another -/

theorem plot_append (s : Screen w h) (ps ps' : List (Int × Int)) :
    (s.plot (ps ++ ps')).1 = ((s.plot ps).1.plot ps').1 := by
  induction ps generalizing s with
  | nil => rfl
  | cons p ps ih => exact ih (s.toggle p.1 p.2)

theorem plot_perm (s : Screen w h) {ps ps' : List (Int × Int)} (e : ps.Perm ps') :
    (s.plot ps).1 = (s.plot ps').1 := by
  refine ext_pixel fun q => ?_
  have hhits : hits q ps = hits q ps' := (e.map cellOf).count_eq q
  rw [pixel_plot, pixel_plot, hhits]

theorem plot_twice (s : Screen w h) (ps : List (Int × Int)) : (s.plot (ps ++ ps)).1 = s := by
  refine ext_pixel fun q => ?_
  have hhits : hits q (ps ++ ps) = hits q ps + hits q ps := by
    rw [hits, List.map_append, List.count_append]
    rfl
  rw [pixel_plot, hhits, decide_eq_false (by omega), Bool.xor_false]

/-- A sprite at its place. -/
structure Sprite where
  x : Int
  y : Int
  lines : List Int

def Sprite.dots (p : Sprite) : List (Int × Int) := Screen.dots p.x p.y p.lines

/-- Draws one sprite after the other. -/
def drawAll (s : Screen w h) (sprites : List Sprite) : Screen w h :=
  sprites.foldl (fun s p => (s.draw p.x p.y p.lines).1) s

theorem drawAll_eq (s : Screen w h) (sprites : List Sprite) :
    s.drawAll sprites = (s.plot (sprites.flatMap Sprite.dots)).1 := by
  induction sprites generalizing s with
  | nil => rfl
  | cons p sprites ih =>
    show (s.draw p.x p.y p.lines).1.drawAll sprites = _
    rw [ih, List.flatMap_cons, plot_append]
    rfl

/-- **Drawing a sprite.** On a screen of any size a pixel changes if an odd number of the
sprite's set bits fall on it, and there is a collision exactly if two of them fall on one pixel,
or one on a pixel that is lit. Sprites leave the same screen in whatever order they are drawn,
and one that is drawn twice leaves the screen as it was. -/
theorem draw_sprites (s : Screen w h) (x y : Int) (lines : List Int) :
    (∀ q, (s.draw x y lines).1.pixel q =
      (s.pixel q ^^ decide (strikes x y lines q % 2 = 1))) ∧
    ((s.draw x y lines).2 = true ↔
      ∃ q : Fin w × Fin h, 2 ≤ strikes x y lines q ∨
        1 ≤ strikes x y lines q ∧ s.pixel q = true) ∧
    (∀ sprites sprites' : List Sprite, sprites.Perm sprites' →
      s.drawAll sprites = s.drawAll sprites') ∧
    ((s.draw x y lines).1.draw x y lines).1 = s := by
  refine ⟨fun q => ?_, ?_, fun sprites sprites' hperm => ?_, ?_⟩
  · rw [draw, pixel_plot, strikes_eq_hits]
  · simp only [strikes_eq_hits]
    exact s.plot_flag (dots x y lines)
  · rw [drawAll_eq, drawAll_eq]
    exact s.plot_perm (hperm.flatMap_right Sprite.dots)
  · rw [draw, draw, ← plot_append]
    exact s.plot_twice (dots x y lines)

/-- On a screen of three by two pixels: a line with a ninth bit, a negative one and a third that
comes around to the first, from a place above the screen and left of it. -/
theorem draw_sprites_on_themselves :
    let s : Screen 3 2 := blank.toggle 0 0
    NeZero 3 ∧ NeZero 2 ∧
    (s.draw (-1) (-3) [0x1FF, -2, 0x20]).1.pixel (0, 0) = true ∧
    (s.draw (-1) (-3) [0x1FF, -2, 0x20]).1.pixel (1, 1) = true ∧
    (s.draw (-1) (-3) [0x1FF, -2, 0x20]).2 = true ∧
    [⟨-1, -3, [0x1FF, -2]⟩, ⟨7, 1, [0x20]⟩].Perm [⟨7, 1, [0x20]⟩, Sprite.mk (-1) (-3) [0x1FF, -2]] ∧
    s.drawAll [⟨-1, -3, [0x1FF, -2]⟩, ⟨7, 1, [0x20]⟩] =
      s.drawAll [⟨7, 1, [0x20]⟩, ⟨-1, -3, [0x1FF, -2]⟩] ∧
    ((s.draw (-1) (-3) [0x1FF, -2, 0x20]).1.draw (-1) (-3) [0x1FF, -2, 0x20]).1 = s := by
  intro s
  obtain ⟨hpixel, hflag, horder, htwice⟩ := draw_sprites s (-1) (-3) [0x1FF, -2, 0x20]
  have hperm := List.Perm.swap (Sprite.mk 7 1 [0x20]) (Sprite.mk (-1) (-3) [0x1FF, -2]) []
  refine ⟨inferInstance, inferInstance, ?_, ?_, ?_, hperm, horder _ _ hperm, htwice⟩
  · rw [hpixel]
    decide
  · rw [hpixel]
    decide
  · exact hflag.mpr ⟨(0, 0), by decide⟩

end Screen

end Chip8
