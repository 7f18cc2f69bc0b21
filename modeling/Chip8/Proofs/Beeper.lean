import Chip8.Sound.Beeper

/-!
The beeper and its host. What an operation can do is one inversion (`perform_does`). So setting a
beeper shows nothing in the window, and fails only where the tone cannot be sampled
(`set_unseen`); and what is heard is what the beeper says (`Heard.does`): the tone sounds as long
as it plays, whatever channels the host gives, and no longer than until it is shut down.
-/

namespace Chip8

/-- Whether a call shows something in the window. -/
def HostCall.isPicture : HostCall → Bool
  | .blit _ | .flip => true
  | _ => false

/-- Whether a call is one of those that a beeper makes. -/
def HostCall.isBeeper : HostCall → Bool
  | .sound .. | .findChannel _ | .play _ | .setVolume _ | .stop => true
  | _ => false

/-- Between two states of a host: calls that show nothing, and what they used up. -/
def Host.Unseen (h h' : Host) : Prop :=
  ∃ channels sounds calls, h' = { h with channels, sounds, calls := calls ++ h.calls } ∧
    ∀ c ∈ calls, c.isPicture = false

theorem Host.Unseen.refl (h : Host) : h.Unseen h := ⟨h.channels, h.sounds, [], rfl, by simp⟩

/-! ## The tone -/

namespace HostCall

/-- What a call does to the tone, which it starts or stops. -/
def tone? : HostCall → Option Bool
  | .play _ => some true
  | .stop => some false
  | _ => none

/-- Whether the tone sounds behind calls, the latest of which comes first. -/
def sounding (calls : List HostCall) : Bool := (calls.findSome? tone?).getD false

/-- Whether a call leaves the tone alone, and all that is open. -/
def isAside : HostCall → Bool
  | .play _ | .stop | .quit => false
  | _ => true

variable {c : HostCall} {calls calls' : List HostCall}

theorem tone?_of_isAside (h : c.isAside = true) : c.tone? = none := by
  cases c with
  | play | stop | quit => cases h
  | _ => rfl

theorem sounding_append (h : ∀ c ∈ calls, c.isAside = true) :
    sounding (calls ++ calls') = sounding calls' := by
  unfold sounding
  rw [List.findSome?_append, List.findSome?_eq_none_iff.mpr fun c hc => tone?_of_isAside (h c hc)]
  rfl

/-- What sounds behind further calls, in order: what they say last of the tone, or else what
sounded before. -/
theorem sounding_append_tones (made calls : List HostCall) :
    sounding (made.reverse ++ calls) = (made.filterMap tone?).getLastD (sounding calls) := by
  unfold sounding
  rw [List.findSome?_append, ← List.head?_filterMap, List.filterMap_reverse, List.head?_reverse,
    List.getLastD_eq_getLast?]
  cases (made.filterMap tone?).getLast? <;> rfl

end HostCall

/-- What is done to a beeper. -/
inductive BeeperOperation where
  | set (on : Bool)
  | shutdown
  deriving DecidableEq, Repr

namespace Beeper

def perform (b : Beeper) (h : Host) : BeeperOperation → Except ToneError Unit × Beeper × Host
  | .set on => b.set on h
  | .shutdown => (.ok (), b.shutdown h)

/-- The sound that a beeper has, or one that is built, and the calls for it. -/
inductive Sounds (b : Beeper) : List HostCall → Nat → Prop
  | held {id : Nat} : b.sound = some id → Sounds b [] id
  | built {id : Nat} {samples : List Int} : b.sound = none →
      Tone.squareWave b.sampleRate b.frequency Tone.defaultAmplitude = .ok samples →
      Sounds b [.sound id samples] id

/-- The ways that an operation can go: its answer, its calls in order, and the beeper behind
it. -/
inductive Does (b : Beeper) (h : Host) :
    BeeperOperation → Except ToneError Unit → List HostCall → Beeper → Prop
  | stays : Does b h (.set b.playing) (.ok ()) [] b
  | stops : b.playing = true →
      Does b h (.set false) (.ok ()) (if b.channel then [.stop] else [])
        { b with playing := false }
  | fails {e : ToneError} : b.playing = false → b.sound = none →
      Tone.squareWave b.sampleRate b.frequency Tone.defaultAmplitude = .error e →
      Does b h (.set true) (.error e) [] b
  | starts {calls : List HostCall} {id : Nat} : b.playing = false → Sounds b calls id →
      b.channel = true →
      Does b h (.set true) (.ok ()) (calls ++ [.play id, .setVolume b.volume])
        { b with sound := some id, playing := true }
  | finds {calls : List HostCall} {id : Nat} : b.playing = false → Sounds b calls id →
      b.channel = false → h.channels.headD true = true →
      Does b h (.set true) (.ok ())
        (calls ++ [.findChannel true, .play id, .setVolume b.volume])
        { b with sound := some id, channel := true, playing := true }
  | lacks {calls : List HostCall} {id : Nat} : b.playing = false → Sounds b calls id →
      b.channel = false → h.channels.headD true = false →
      Does b h (.set true) (.ok ()) (calls ++ [.findChannel false])
        { b with sound := some id, channel := false }
  | shuts :
      Does b h .shutdown (.ok ()) (if b.channel then [.stop] else [])
        { b with playing := false, channel := false, sound := none }

theorem stop_host (b : Beeper) (h : Host) :
    (b.stop h).2 =
      { h with calls := (if b.channel then [HostCall.stop] else []).reverse ++ h.calls } := by
  unfold stop
  cases b.channel <;> rfl

theorem findChannel_eq (h : Host) :
    h.findChannel = (h.channels.headD true,
      { h with
        channels := h.channels.tail
        calls := .findChannel (h.channels.headD true) :: h.calls }) := by
  obtain ⟨_, _, _, _, _, _, channels, _, _, _⟩ := h
  cases channels <;> rfl

/-- A sound is there or is built, unless the tone cannot be sampled. -/
theorem withSound_sounds (b : Beeper) (h : Host) :
    (∃ e, b.sound = none ∧
      Tone.squareWave b.sampleRate b.frequency Tone.defaultAmplitude = .error e ∧
      b.withSound h = .error e) ∨
    ∃ calls id sounds, Sounds b calls id ∧
      b.withSound h =
        .ok (id, { b with sound := some id },
          { h with sounds, calls := calls.reverse ++ h.calls }) := by
  unfold withSound
  cases hs : b.sound with
  | some id =>
    refine .inr ⟨[], id, h.sounds, .held hs, ?_⟩
    show Except.ok (id, b, h) = .ok (id, { b with sound := some id }, h)
    rw [← hs]
  | none =>
    cases hw : Tone.squareWave b.sampleRate b.frequency Tone.defaultAmplitude with
    | error e => exact .inl ⟨e, rfl, rfl, rfl⟩
    | ok samples => exact .inr ⟨_, h.sounds + 1, h.sounds + 1, .built hs hw, rfl⟩

theorem withChannel_of_held {b : Beeper} (hc : b.channel = true) (h : Host) :
    b.withChannel h = (b, h) := if_pos hc

theorem withChannel_of_free {b : Beeper} (hc : b.channel = false) (h : Host) :
    b.withChannel h =
      ({ b with channel := h.channels.headD true },
        { h with
          channels := h.channels.tail
          calls := .findChannel (h.channels.headD true) :: h.calls }) := by
  unfold withChannel
  rw [hc, findChannel_eq]
  rfl

/-- **An operation goes one of these ways.** -/
theorem perform_does (b : Beeper) (h : Host) (op : BeeperOperation) :
    ∃ channels sounds calls,
      Does b h op (b.perform h op).1 calls (b.perform h op).2.1 ∧
      (b.perform h op).2.2 = { h with channels, sounds, calls := calls.reverse ++ h.calls } := by
  cases op with
  | shutdown => exact ⟨h.channels, h.sounds, _, .shuts, b.stop_host h⟩
  | set on =>
    show ∃ channels sounds calls, Does b h (.set on) (b.set on h).1 calls (b.set on h).2.1 ∧
      (b.set on h).2.2 = _
    unfold set
    by_cases hsame : on = b.playing
    · rw [if_pos hsame, hsame]
      exact ⟨_, _, _, .stays, rfl⟩
    · rw [if_neg hsame]
      cases on with
      | false =>
        exact ⟨_, _, _, .stops (by simpa using hsame), b.stop_host h⟩
      | true =>
        have hsilent : b.playing = false := by simpa using hsame
        rw [if_neg (show ¬(!true) = true by decide)]
        rcases b.withSound_sounds h with ⟨e, hs, he, hw⟩ | ⟨calls, id, sounds, hsounds, hw⟩
        · rw [hw]
          exact ⟨_, _, [], .fails hsilent hs he, rfl⟩
        · rw [hw]
          dsimp only
          by_cases hc : b.channel = true
          · rw [withChannel_of_held (b := { b with sound := some id }) hc]
            dsimp only
            rw [if_pos hc]
            exact ⟨h.channels, sounds, _, .starts hsilent hsounds hc, by simp [Host.call]⟩
          · rw [Bool.not_eq_true] at hc
            rw [withChannel_of_free (b := { b with sound := some id }) hc]
            dsimp only
            cases hfound : h.channels.headD true with
            | true =>
              rw [if_pos rfl]
              exact ⟨h.channels.tail, sounds, _, .finds hsilent hsounds hc hfound,
                by simp [Host.call]⟩
            | false =>
              rw [if_neg (by decide)]
              exact ⟨h.channels.tail, sounds, _, .lacks hsilent hsounds hc hfound, by simp⟩

theorem set_does (b : Beeper) (on : Bool) (h : Host) :
    ∃ channels sounds calls,
      Does b h (.set on) (b.set on h).1 calls (b.set on h).2.1 ∧
      (b.set on h).2.2 = { h with channels, sounds, calls := calls.reverse ++ h.calls } :=
  b.perform_does h (.set on)

section

variable {b b' : Beeper} {h : Host} {op : BeeperOperation} {r : Except ToneError Unit}
  {calls : List HostCall} {id : Nat}

theorem Does.isBeeper (hd : Does b h op r calls b') : ∀ c ∈ calls, c.isBeeper = true := by
  cases hd with
  | stays | fails => nofun
  | stops | shuts => cases b.channel <;> simp [HostCall.isBeeper]
  | starts _ hs | finds _ hs | lacks _ hs => cases hs <;> simp [HostCall.isBeeper]

/-- An operation fails where the tone cannot be sampled. -/
theorem Does.error {e : ToneError} (hd : Does b h op (.error e) calls b') :
    Tone.squareWave b.sampleRate b.frequency Tone.defaultAmplitude = .error e := by
  cases hd with
  | fails _ _ he => exact he

theorem Does.tone (hd : Does b h op r calls b') :
    b'.sampleRate = b.sampleRate ∧ b'.frequency = b.frequency := by
  cases hd <;> exact ⟨rfl, rfl⟩

/-- An operation plays only where nothing plays, and a beeper that plays has a channel. -/
theorem Does.playing (hd : Does b h op r calls b')
    (hc : b.playing = true → b.channel = true) :
    (calls.filterMap HostCall.tone? = [] ∧ b'.playing = b.playing ∨
      calls.filterMap HostCall.tone? = [b'.playing] ∧ (b'.playing = true → b.playing = false)) ∧
    (b'.playing = true → b'.channel = true) := by
  cases hd with
  | stays | fails => exact ⟨.inl ⟨rfl, rfl⟩, hc⟩
  | stops hp =>
    rw [if_pos (hc hp)]
    exact ⟨.inr ⟨rfl, nofun⟩, nofun⟩
  | starts hp hs hc =>
    refine ⟨.inr ⟨?_, fun _ => hp⟩, fun _ => hc⟩
    cases hs <;> rfl
  | finds hp hs =>
    refine ⟨.inr ⟨?_, fun _ => hp⟩, fun _ => rfl⟩
    cases hs <;> rfl
  | lacks hp hs =>
    refine ⟨.inl ⟨?_, rfl⟩, fun h => ?_⟩
    · cases hs <;> rfl
    · cases hp.symm.trans h
  | shuts =>
    refine ⟨?_, nofun⟩
    cases hch : b.channel with
    | true => exact .inr ⟨rfl, nofun⟩
    | false =>
      -- Without a channel there is nothing to stop, and nothing plays.
      have hp : b.playing = false := by
        rw [← Bool.not_eq_true]
        intro hp
        cases hch.symm.trans (hc hp)
      exact .inl ⟨rfl, hp.symm⟩

end

/-- Setting a beeper shows nothing. It fails where its tone cannot be sampled. -/
theorem set_unseen (b : Beeper) (on : Bool) (h : Host) :
    h.Unseen (b.set on h).2.2 ∧ ∀ e, (b.set on h).1 = .error e →
      Tone.squareWave b.sampleRate b.frequency Tone.defaultAmplitude = .error e := by
  obtain ⟨channels, sounds, calls, hd, hh⟩ := b.set_does on h
  refine ⟨⟨channels, sounds, calls.reverse, hh, fun c hc => ?_⟩, fun e he => (he ▸ hd).error⟩
  have hbeeper := hd.isBeeper c (List.mem_reverse.mp hc)
  cases c with
  | blit | flip => cases hbeeper
  | _ => rfl

/-- Setting a beeper leaves its tone as it is, whatever comes of it. -/
theorem set_tone (b : Beeper) (on : Bool) (h : Host) :
    (b.set on h).2.1.sampleRate = b.sampleRate ∧ (b.set on h).2.1.frequency = b.frequency := by
  obtain ⟨_, _, _, hd, -⟩ := b.set_does on h
  exact hd.tone

/-- A beeper that was set plays if it is to, and did before or has a channel to play on. -/
theorem set_playing {b b' : Beeper} {on : Bool} {h h' : Host}
    (hset : b.set on h = (.ok (), b', h')) :
    b'.playing = (on && (b.playing || b.channel || h.channels.headD true)) := by
  obtain ⟨_, _, _, hd, -⟩ := b.set_does on h
  rw [hset] at hd
  dsimp only at hd
  cases hd with
  | stays => cases b.playing <;> rfl
  | stops => rfl
  | starts _ _ hc => rw [hc, Bool.or_true]; rfl
  | finds _ _ _ hf => rw [hf, Bool.or_true]; rfl
  | lacks hp _ hc hf => rw [hf, hp, hc]; rfl

/-- A beeper, if there is one, is set once. -/
inductive Beeps (on : Bool) : Option Beeper → Host → Option Beeper → Host → Prop
  | silent {h : Host} : Beeps on none h none h
  | set {b b' : Beeper} {h h' : Host} : b.set on h = (.ok (), b', h') →
      Beeps on (some b) h (some b') h'

variable {on : Bool} {beeper beeper' : Option Beeper} {h h' : Host}

theorem Beeps.tone (e : Beeps on beeper h beeper' h') {b' : Beeper} (hb : beeper' = some b') :
    ∃ b, beeper = some b ∧ b'.sampleRate = b.sampleRate ∧ b'.frequency = b.frequency := by
  cases e with
  | silent => cases hb
  | @set b _ _ _ hset =>
    cases hb
    have htone := b.set_tone on h
    rw [hset] at htone
    exact ⟨b, rfl, htone⟩

theorem Beeps.unseen (e : Beeps on beeper h beeper' h') : h.Unseen h' := by
  cases e with
  | silent => exact .refl h
  | @set b _ _ _ hset =>
    have hu := (b.set_unseen on h).1
    rw [hset] at hu
    exact hu

end Beeper

/-- Between two states of a host: calls that leave the tone alone, and all that is open. -/
def Host.Aside (h h' : Host) : Prop :=
  ∃ calls, h'.calls = calls ++ h.calls ∧ ∀ c ∈ calls, c.isAside = true

namespace Host.Aside

variable {h h' h'' : Host}

theorem of_calls (e : h'.calls = h.calls) : h.Aside h' := ⟨[], e, by simp⟩

theorem refl (h : Host) : h.Aside h := .of_calls rfl

theorem trans (e : h.Aside h') (e' : h'.Aside h'') : h.Aside h'' := by
  obtain ⟨calls, he, hc⟩ := e
  obtain ⟨calls', he', hc'⟩ := e'
  refine ⟨calls' ++ calls, by rw [he', he, List.append_assoc], fun c hm => ?_⟩
  rcases List.mem_append.mp hm with hm | hm
  · exact hc' c hm
  · exact hc c hm

theorem call (h : Host) {c : HostCall} (hc : c.isAside = true) : h.Aside (h.call c) :=
  ⟨[c], rfl, by simpa using hc⟩

end Host.Aside

namespace Beeper

/-- What is heard of a beeper, if there is one, behind the calls `old`: the tone sounds while it
plays, which it does on a channel, and nothing was closed. -/
structure Heard (old : List HostCall) (beeper : Option Beeper) (h : Host) : Prop where
  tone : ∃ calls, h.calls = calls ++ old ∧ HostCall.quit ∉ calls ∧
    HostCall.sounding calls = beeper.any (·.playing)
  channel : ∀ b, beeper = some b → b.playing = true → b.channel = true

namespace Heard

variable {old : List HostCall} {beeper : Option Beeper} {b b' : Beeper} {h h' : Host}

theorem of_silent (hcalls : h.calls = old) (hb : ∀ b, beeper = some b → b.playing = false) :
    Heard old beeper h := by
  refine ⟨⟨[], hcalls, List.not_mem_nil, ?_⟩, fun b hsome hp => ?_⟩
  · cases beeper with
    | none => rfl
    | some b => exact (hb b rfl).symm
  · rw [hb b hsome] at hp
    cases hp

theorem aside (e : Heard old beeper h) (ha : h.Aside h') : Heard old beeper h' := by
  obtain ⟨calls, hcalls, hquit, hsounding⟩ := e.tone
  obtain ⟨calls', hcalls', haside⟩ := ha
  refine ⟨⟨calls' ++ calls, ?_, ?_, ?_⟩, e.channel⟩
  · rw [hcalls', hcalls, List.append_assoc]
  · intro hm
    rcases List.mem_append.mp hm with hm | hm
    · cases haside _ hm
    · exact hquit hm
  · rw [HostCall.sounding_append haside, hsounding]

/-- **Whatever a beeper does is heard**, also where it fails or finds no channel. -/
theorem does {op : BeeperOperation} {r : Except ToneError Unit} {made : List HostCall}
    (e : Heard old (some b) h) (hd : Does b h op r made b')
    (hcalls' : h'.calls = made.reverse ++ h.calls) : Heard old (some b') h' := by
  obtain ⟨calls, hcalls, hquit, hsounding⟩ := e.tone
  obtain ⟨htones, hchannel⟩ := hd.playing (e.channel b rfl)
  refine ⟨⟨made.reverse ++ calls, ?_, ?_, ?_⟩, fun b'' hb => ?_⟩
  · rw [hcalls', hcalls, List.append_assoc]
  · intro hm
    rcases List.mem_append.mp hm with hm | hm
    · cases hd.isBeeper _ (List.mem_reverse.mp hm)
    · exact hquit hm
  · rw [HostCall.sounding_append_tones]
    rcases htones with ⟨hnone, hp⟩ | ⟨hone, -⟩
    · rw [hnone, Option.any_some, hp]
      exact hsounding
    · rw [hone]
      rfl
  · cases hb
    exact hchannel

theorem set (e : Heard old (some b) h) (on : Bool) :
    Heard old (some (b.set on h).2.1) (b.set on h).2.2 := by
  obtain ⟨_, _, _, hd, hh⟩ := b.set_does on h
  exact e.does hd (congrArg Host.calls hh)

/-- A beeper that was shut down is not heard. -/
theorem shutdown (e : Heard old (some b) h) :
    Heard old (some (b.shutdown h).1) (b.shutdown h).2 ∧ (b.shutdown h).1.playing = false := by
  obtain ⟨_, _, _, hd, hh⟩ := b.perform_does h .shutdown
  exact ⟨e.does hd (congrArg Host.calls hh), rfl⟩

end Heard

end Beeper

end Chip8
