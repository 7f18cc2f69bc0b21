import Chip8.Text.Message

/-!
Templates in segments. A template that is spelled out of plain text and of places for numbers and
texts can be filled with what these places take, and gives the texts of its segments, one behind
the other (`message_spelledOut`).
-/

namespace Chip8.Text

/-! ## Digits -/

theorem mem_toDigitsCore {base fuel n : Nat} {acc : List Char} {c : Char}
    (h : c ∈ Nat.toDigitsCore base fuel n acc) : c ∈ acc ∨ ∃ k, c = Nat.digitChar k := by
  induction fuel generalizing n acc with
  | zero => exact .inl h
  | succ fuel ih =>
    rw [Nat.toDigitsCore] at h
    split at h
    · exact (List.mem_cons.mp h).symm.imp_right fun h => ⟨_, h⟩
    · rcases ih h with h | h
      · exact (List.mem_cons.mp h).symm.imp_right fun h => ⟨_, h⟩
      · exact .inr h

theorem exists_of_mem_digits {base n : Nat} {c : Char} (h : c ∈ digits base n) :
    ∃ k, c = Nat.digitChar k :=
  (mem_toDigitsCore h).resolve_left List.not_mem_nil

theorem digitChar_ne_mark (k : Nat) :
    Nat.digitChar k ≠ mark ∧ (Nat.digitChar k).toUpper ≠ mark := by
  by_cases h : k < 16
  · revert k
    decide
  · have hk : Nat.digitChar k = '*' := by
      unfold Nat.digitChar
      repeat' rw [if_neg (by omega)]
    rw [hk]
    decide

theorem ne_mark_of_mem_digits {base n : Nat} : ∀ c ∈ digits base n, c ≠ mark := by
  intro c hc
  obtain ⟨k, rfl⟩ := exists_of_mem_digits hc
  exact (digitChar_ne_mark k).1

theorem ne_mark_of_mem_upperDigits {base n : Nat} : ∀ c ∈ upperDigits base n, c ≠ mark := by
  intro c hc
  obtain ⟨d, hd, rfl⟩ := List.mem_map.mp hc
  obtain ⟨k, rfl⟩ := exists_of_mem_digits hd
  exact (digitChar_ne_mark k).2

theorem length_codesOf {cs : List Char} (h : ∀ c ∈ cs, c ≠ mark) :
    (codesOf cs).length = cs.length := by
  induction cs with
  | nil => rfl
  | cons c cs ih =>
    rw [codesOf_cons (h c List.mem_cons_self), List.length_cons, List.length_cons,
      ih fun d hd => h d (List.mem_cons_of_mem c hd)]

/-! ## Places -/

namespace Placeholder

/-- A least width of one digit, filled up with zeros; none is bare. -/
def zeroed (width : Fin 10) : Placeholder :=
  { plain with zeros := 0 < width.val, width := width.val }

theorem zeroed_whole (width : Fin 10) (marker : List Char) (ds : Nat → List Char) (n : Int)
    (h : ∀ c ∈ ds n.natAbs, c ≠ mark) :
    ∃ t, (zeroed width).whole marker ds n = .ok t ∧
      t.get = zeroFilled [] width.val (n < 0) (ds n.natAbs) := by
  have hmarks : ∀ c ∈ (if n < 0 then ['-'] else []) ++ ds n.natAbs, c ≠ mark := by
    intro c hc
    rcases List.mem_append.mp hc with hc | hc
    · split at hc
      · rw [List.mem_singleton.mp hc]
        decide
      · cases hc
    · exact h c hc
  refine ⟨_, rfl, ?_⟩
  simp only [laid, Thunk.get, zeroed, sign, plain, zeroFilled, Option.getD_none, Nat.zero_sub,
    List.replicate_zero, List.nil_append, List.append_nil, decide_eq_true_eq, Bool.false_eq_true,
    ↓reduceIte, length_codesOf hmarks, List.length_append, List.length_nil, Nat.add_zero,
    Bool.true_and]
  -- Without a width there is no gap, so it makes no difference on which side it lies.
  rcases Nat.eq_zero_or_pos width.val with hw | hw
  · simp [hw]
  · simp [hw]

@[simp] theorem zeroed_text (s : String) : ((zeroed 0).text s).get = s := by
  simp [text, laid, Thunk.get, zeroed, plain]

/-- There is memory for the width of a digit. -/
theorem zeroed_fillIn (room : Room) {width : Fin 10} {letter : Char} {a : Argument}
    {t : Thunk String} (h : (zeroed width).fill letter a = .ok t) :
    (zeroed width).fillIn room letter a = .ok t := by
  have hleast := room.least
  have hwidth : ¬room.bytes < (zeroed width).width := by
    simp only [zeroed]
    omega
  simp only [fillIn, h, if_neg hwidth]

end Placeholder

/-! ## Segments -/

/-- A segment of a template, with what it takes. -/
inductive Segment where
  | plain (s : String)
  /-- Hexadecimal digits, at least `width` of them. -/
  | hex (width : Fin 10) (n : Int)
  | lowerHex (width : Fin 10) (n : Int)
  | text (s : String)

namespace Segment

/-- A least width is one digit behind a zero. -/
def sized (width : Fin 10) (letter : Char) : List Char :=
  if width = 0 then [letter] else ['0', Nat.digitChar width.val, letter]

def spelled : Segment → List Char
  | plain s => s.toList
  | hex width _ => '%' :: sized width 'X'
  | lowerHex width _ => '%' :: sized width 'x'
  | text _ => '%' :: sized 0 's'

def arguments : Segment → List Argument
  | plain _ => []
  | hex _ n | lowerHex _ n => [.whole n]
  | text s => [.text s]

def shown : Segment → String
  | plain s => s
  | hex width n => Text.hex width.val n
  | lowerHex width n => Text.lowerHex width.val n
  | text s => s

/-- Plain text has no places. -/
def isClean : Segment → Bool
  | plain s => !s.toList.contains '%'
  | _ => true

end Segment

theorem takePlaceholder_sized {letter : Char} (h : letter ∈ ['X', 'x', 's'])
    (width : Fin 10) (cs : List Char) (args : List Argument) :
    takePlaceholder (Segment.sized width letter ++ cs) args =
      .ok (.zeroed width, letter :: cs, args) := by
  simp only [List.mem_cons, List.not_mem_nil, or_false] at h
  rcases h with rfl | rfl | rfl
  all_goals
    match width with
    | 0 | 1 | 2 | 3 | 4 | 5 | 6 | 7 | 8 | 9 => rfl

theorem exists_sized_eq {letter : Char} (h : letter ∈ ['X', 'x', 's']) (width : Fin 10) :
    ∃ c ds, Segment.sized width letter = c :: ds ∧ c ≠ '%' := by
  unfold Segment.sized
  split
  · refine ⟨letter, [], rfl, ?_⟩
    rintro rfl
    exact absurd h (by decide)
  · exact ⟨_, _, rfl, by decide⟩

/-- With fuel enough for the template, `pieces` are what its places and characters give, whatever
the memory. -/
def Fills (cs : List Char) (args : List Argument) (pieces : List (Thunk String)) : Prop :=
  ∀ (room : Room) (fuel : Nat), cs.length < fuel → fillFrom room fuel cs args = .ok pieces

namespace Fills

variable {cs : List Char} {args : List Argument} {pieces : List (Thunk String)}

theorem nil : Fills [] [] [] := by
  intro room fuel hfuel
  obtain ⟨fuel, rfl⟩ := Nat.exists_eq_add_of_lt hfuel
  rfl

theorem char {c : Char} (hc : c ≠ '%') (h : Fills cs args pieces) :
    Fills (c :: cs) args (Thunk.pure (String.singleton c) :: pieces) := by
  intro room fuel hfuel
  obtain ⟨fuel, rfl⟩ : ∃ n, fuel = n + 1 := ⟨fuel - 1, by omega⟩
  rw [fillFrom, h room fuel (by simpa using hfuel)]
  · rfl
  · exact fun ds hd => absurd hd hc
  · exact fun hd => absurd hd hc

theorem place {letter : Char} (hl : letter ∈ ['X', 'x', 's']) {width : Fin 10}
    {a : Argument} {t : Thunk String} (ht : (Placeholder.zeroed width).fill letter a = .ok t)
    (h : Fills cs args pieces) :
    Fills ('%' :: (Segment.sized width letter ++ cs)) (a :: args) (t :: pieces) := by
  intro room fuel hfuel
  obtain ⟨fuel, rfl⟩ : ∃ n, fuel = n + 1 := ⟨fuel - 1, by omega⟩
  have htake := takePlaceholder_sized hl width cs (a :: args)
  obtain ⟨c, ds, hsized, hc⟩ := exists_sized_eq hl width
  rw [hsized, List.cons_append] at htake hfuel ⊢
  rw [fillFrom]
  · simp only [htake, Placeholder.zeroed_fillIn room ht, h room fuel (by simp at hfuel; omega)]
    rfl
  · exact fun ds hd => absurd (List.cons.inj hd).1 hc

theorem plain {ds : List Char} (hd : '%' ∉ ds) (h : Fills cs args pieces) :
    Fills (ds ++ cs) args (ds.map (fun c => Thunk.pure (String.singleton c)) ++ pieces) := by
  induction ds with
  | nil => exact h
  | cons d ds ih =>
    obtain ⟨hne, hd⟩ := not_or.mp (mt List.mem_cons.mpr hd)
    exact (ih hd).char (Ne.symm hne)

end Fills

theorem join_map_singleton (cs : List Char) :
    String.join (cs.map String.singleton) = String.ofList cs := by
  induction cs with
  | nil => rfl
  | cons c cs ih =>
    rw [List.map_cons, String.join_cons, ih]
    exact (@String.ofList_append [c] cs).symm

/-- What a segment takes gives its text. -/
theorem exists_fills {p : Segment} (hp : p.isClean = true) {cs : List Char} {args : List Argument}
    {pieces : List (Thunk String)} (h : Fills cs args pieces) :
    ∃ more, Fills (p.spelled ++ cs) (p.arguments ++ args) (more ++ pieces) ∧
      String.join (more.map Thunk.get) = p.shown := by
  cases p with
  | plain s =>
    have hs : '%' ∉ s.toList := by simpa [Segment.isClean] using hp
    refine ⟨_, h.plain hs, ?_⟩
    rw [List.map_map]
    exact (join_map_singleton _).trans String.ofList_toList
  | hex width n =>
    obtain ⟨t, ht, htext⟩ := Placeholder.zeroed_whole width ['0', 'X'] (upperDigits 16) n
      ne_mark_of_mem_upperDigits
    exact ⟨[t], h.place (by decide) ht, by simp [String.join, htext, Segment.shown, Text.hex]⟩
  | lowerHex width n =>
    obtain ⟨t, ht, htext⟩ := Placeholder.zeroed_whole width ['0', 'x'] (digits 16) n
      ne_mark_of_mem_digits
    exact ⟨[t], h.place (by decide) ht, by simp [String.join, htext, Segment.shown, Text.lowerHex]⟩
  | text s =>
    exact ⟨[(Placeholder.zeroed 0).text s], h.place (by decide) rfl,
      by simp [String.join, Segment.shown]⟩

/-- The template of segments, one behind the other. -/
def spelledOut (ps : List Segment) : String := String.ofList (ps.flatMap Segment.spelled)

theorem exists_fills_flatMap {ps : List Segment} (h : ∀ p ∈ ps, p.isClean = true) :
    ∃ pieces, Fills (ps.flatMap Segment.spelled) (ps.flatMap Segment.arguments) pieces ∧
      String.join (pieces.map Thunk.get) = String.join (ps.map Segment.shown) := by
  induction ps with
  | nil => exact ⟨[], .nil, rfl⟩
  | cons p ps ih =>
    obtain ⟨pieces, hfills, hpieces⟩ := ih fun q hq => h q (List.mem_cons_of_mem p hq)
    obtain ⟨more, hmore, htext⟩ := exists_fills (h p List.mem_cons_self) hfills
    refine ⟨more ++ pieces, hmore, ?_⟩
    rw [List.map_append, String.join_append, htext, hpieces, List.map_cons, String.join_cons]

/-- **A template in segments gives the texts of its segments.** -/
theorem message_spelledOut (room : Room) {ps : List Segment} (h : ∀ p ∈ ps, p.isClean = true)
    (hplaces : ps.flatMap Segment.arguments ≠ []) :
    message room (spelledOut ps) (ps.flatMap Segment.arguments) =
      .ok (String.join (ps.map Segment.shown)) := by
  obtain ⟨pieces, hfills, hpieces⟩ := exists_fills_flatMap h
  have hfill : fill room (spelledOut ps) (ps.flatMap Segment.arguments) =
      .ok (String.join (ps.map Segment.shown)) := by
    rw [fill, spelledOut, String.toList_ofList]
    simp only [hfills room _ (Nat.lt_succ_self _), Except.map, hpieces]
  rw [message, if_neg (by simpa [List.isEmpty_iff] using hplaces), hfill]

end Chip8.Text
