import Chip8.CommandLine.Arguments

/-!
What a command line can ask for. Options set whole numbers and names of palettes that there are,
and nothing sets the rates of timers and frames (`Plain.read`). So a request names a program, and
its configuration has a palette (`parse_reads`).
-/

namespace Chip8.CommandLine

/-- A configuration as options leave it. -/
structure Plain (c : Config) : Prop where
  scale : ∃ n, c.scale = .whole n
  clock : ∃ n, c.clockHz = .whole n
  timer : c.timerHz = .whole 60
  rate : c.frameRate = .whole 60
  palette : c.palette ∈ paletteNames

theorem map_eq_ok {α β : Type} {x : Except Stop α} {f : α → β} {b : β} (h : x.map f = .ok b) :
    ∃ a, x = .ok a ∧ f a = b := by
  cases x with
  | error e => cases h
  | ok a => exact ⟨a, rfl, Except.ok.inj h⟩

theorem bind_eq_ok {α β : Type} {x : Except Stop α} {f : α → Except Stop β} {b : β}
    (h : x.bind f = .ok b) : ∃ a, x = .ok a ∧ f a = .ok b := by
  cases x with
  | error e => cases h
  | ok a => exact ⟨a, rfl, h⟩

namespace Plain

theorem standard : Plain .standard := ⟨⟨10, rfl⟩, ⟨500, rfl⟩, rfl, rfl, by decide⟩

theorem assign {c c' : Config} (h : Plain c) {s : Setting} {text : String}
    (ha : assign c s text = .ok c') : Plain c' := by
  unfold CommandLine.assign at ha
  cases s with
  | help => cases ha
  | scale =>
    obtain ⟨n, -, rfl⟩ := map_eq_ok ha
    exact { h with scale := ⟨n, rfl⟩ }
  | clock =>
    obtain ⟨n, -, rfl⟩ := map_eq_ok ha
    exact { h with clock := ⟨n, rfl⟩ }
  | palette =>
    dsimp only at ha
    split at ha
    · next hname =>
      cases ha
      exact { h with palette := hname }
    · cases ha
  | fullscreen | mute | strict | shiftVy | jumpVx | incrementI | logicVf =>
    cases ha
    exact { h with }

variable {a a' : Arguments}

theorem set (h : Plain a.config) {s : Setting} {text : String} (ha : a.set s text = .ok a') :
    Plain a'.config := by
  unfold Arguments.set at ha
  dsimp only at ha
  split at ha
  · cases ha
    exact h
  · obtain ⟨c, hc, rfl⟩ := map_eq_ok ha
    exact h.assign hc

theorem setSpelled (h : Plain a.config) {o : Spelled} (ha : a.setSpelled o = .ok a') :
    Plain a'.config := by
  unfold Arguments.setSpelled at ha
  dsimp only at ha
  split at ha
  · exact h.set ha
  · split at ha
    · exact h.set ha
    · split at ha
      · obtain ⟨⟨⟩, -, ha⟩ := bind_eq_ok ha
        exact h.set ha
      · cases ha

/-- **Reading changes a configuration by its options only.** -/
theorem read (h : Plain a.config) {tokens : List (String × Role)}
    (ha : a.read tokens = .ok a') : Plain a'.config := by
  -- An option takes a value behind it or is spelled with it; all else leaves the configuration.
  fun_induction Arguments.read a tokens with
  | case1 =>
    cases ha
    exact h
  | case2 | case4 | case5 => cases ha
  | case3 _ _ _ _ _ _ _ hset ih => exact ih (h.set hset) ha
  | case6 _ _ _ _ _ _ hset ih => exact ih (h.setSpelled hset) ha
  | case7 | case8 | case9 | case10 | case11 | case12 | case13 =>
    rename_i ih
    exact ih h ha

end Plain

/-- The program, palette and numbers of a request, which has the standard rates. -/
structure Request.Reads (r : Request) (path : Path) (palette : Palette) (scale clock : Int) :
    Prop where
  path : r.config.romPath = some path
  palette : Palette.ofName r.config.palette = .ok palette
  scale : r.config.scale = .whole scale
  clock : r.config.clockHz = .whole clock
  timer : r.config.timerHz = .whole 60
  rate : r.config.frameRate = .whole 60

theorem ofName_of_mem {name : String} (h : name ∈ paletteNames) :
    ∃ palette, Palette.ofName name = .ok palette := by
  obtain rfl | rfl : name = "mono" ∨ name = "phosphor" := by
    simpa [paletteNames, Palette.named] using h
  · exact ⟨.mono, rfl⟩
  · exact ⟨.phosphor, rfl⟩

/-- **Every request can be read.** -/
theorem parse_reads {argv : List String} {r : Request} (h : parse argv = .ok r) :
    ∃ path palette scale clock, r.Reads path palette scale clock := by
  unfold parse at h
  split at h
  · cases h
  · obtain ⟨a, hread, hrequest⟩ := bind_eq_ok h
    have hplain : Plain a.config := Plain.standard.read hread
    obtain ⟨scale, hscale⟩ := hplain.scale
    obtain ⟨clock, hclock⟩ := hplain.clock
    obtain ⟨palette, hpalette⟩ := ofName_of_mem hplain.palette
    unfold Arguments.toRequest at hrequest
    split at hrequest
    · cases hrequest
    · next rom _ =>
      split at hrequest
      · cases hrequest
        exact ⟨.ofString rom, palette, scale, clock, rfl, hpalette, hscale, hclock, hplain.timer,
          hplain.rate⟩
      · cases hrequest

end Chip8.CommandLine
