import Chip8.Proofs.Beeper
import Mathlib.Data.List.Chain

/-!
A beeper from its creation on, whatever is asked of it and whatever channels its host gives. What
it says it plays is what the host was told last, no tone is started twice, and a failure to sample
the tone leaves no trace (`session_mirrors_host`).
-/

namespace Chip8

namespace HostCall

def asksChannel : HostCall → Bool
  | .findChannel _ => true
  | _ => false

def buildsSound : HostCall → Bool
  | .sound .. => true
  | _ => false

/-- Behind no start of the tone comes another, until it is stopped. The latest call comes first. -/
def Alternates (calls : List HostCall) : Prop :=
  (calls.filterMap tone?).IsChain fun later earlier => ¬(later = true ∧ earlier = true)

theorem head?_tones_of_silent {calls : List HostCall} (h : sounding calls = false) :
    ∀ t ∈ (calls.filterMap tone?).head?, t = false := by
  intro t ht
  rw [List.head?_filterMap, Option.mem_def] at ht
  rw [sounding, ht] at h
  exact h

end HostCall

namespace Beeper

/-- An operation that fails does not end the sequence. -/
def performAll (b : Beeper) (h : Host) : List BeeperOperation → Beeper × Host
  | [] => (b, h)
  | op :: ops =>
    let (_, b, h) := b.perform h op
    b.performAll h ops

section

variable {b b' : Beeper} {h : Host} {op : BeeperOperation} {r : Except ToneError Unit}
  {calls : List HostCall}

/-- A channel is asked for once, and only where none is held. -/
theorem Does.asks_le (hd : Does b h op r calls b') :
    calls.countP HostCall.asksChannel ≤ if b.channel then 0 else 1 := by
  cases hd with
  | stays | fails => exact Nat.zero_le _
  | stops | shuts => cases b.channel <;> exact Nat.zero_le _
  | starts _ hs => cases hs <;> exact Nat.zero_le _
  | finds _ hs hc | lacks _ hs hc =>
    rw [hc]
    cases hs <;> exact Nat.le_refl 1

/-- Until it is shut down, a beeper builds the sound that it has not, and keeps it. -/
theorem Does.builds_le (hd : Does b h op r calls b') (hop : op ≠ .shutdown) :
    calls.countP HostCall.buildsSound + (if b'.sound.isSome then 0 else 1) ≤
      if b.sound.isSome then 0 else 1 := by
  cases hd with
  | stays | fails => simp
  | stops => cases b.channel <;> simp [HostCall.buildsSound]
  | starts _ hs | finds _ hs | lacks _ hs =>
    cases hs with
    | held hs =>
      rw [hs]
      exact Nat.le_refl 0
    | built hs =>
      rw [hs]
      exact Nat.le_refl 1
  | shuts => exact absurd rfl hop

/-- A beeper that plays has a sound, and it has one only if its tone can be sampled. -/
structure Sampled (b : Beeper) : Prop where
  sound : b.playing = true → b.sound.isSome = true
  samples : b.sound.isSome = true →
    ∃ samples, Tone.squareWave b.sampleRate b.frequency Tone.defaultAmplitude = .ok samples

theorem Sounds.samples {id : Nat} (hs : Sounds b calls id) (hb : b.Sampled) :
    ∃ samples, Tone.squareWave b.sampleRate b.frequency Tone.defaultAmplitude = .ok samples := by
  cases hs with
  | held h => exact hb.samples (by rw [h]; rfl)
  | built _ h => exact ⟨_, h⟩

theorem Does.sampled (hd : Does b h op r calls b') (hb : b.Sampled) : b'.Sampled := by
  cases hd with
  | stays | fails => exact hb
  | stops => exact ⟨nofun, hb.samples⟩
  | starts _ hs | finds _ hs | lacks _ hs => exact ⟨fun _ => rfl, fun _ => hs.samples hb⟩
  | shuts => exact ⟨nofun, nofun⟩

/-- What holds at any moment of a session that began with `b₀`, behind the calls `old`. -/
structure Session (b₀ : Beeper) (old : List HostCall) (b : Beeper) (h : Host) : Prop where
  heard : Heard old (some b) h
  alternates : ∀ calls, h.calls = calls ++ old → HostCall.Alternates calls
  tone : b.sampleRate = b₀.sampleRate ∧ b.frequency = b₀.frequency
  sampled : b.Sampled

theorem Session.does {b₀ : Beeper} {old made : List HostCall} {h' : Host}
    (s : Session b₀ old b h) (hd : Does b h op r made b')
    (hcalls : h'.calls = made.reverse ++ h.calls) : Session b₀ old b' h' where
  heard := s.heard.does hd hcalls
  alternates calls' hcalls' := by
    obtain ⟨calls, hold, -, hsounding⟩ := s.heard.tone
    have halternates := s.alternates calls hold
    rw [hcalls, hold, ← List.append_assoc] at hcalls'
    rw [← List.append_cancel_right hcalls']
    unfold HostCall.Alternates at halternates ⊢
    rw [List.filterMap_append, List.filterMap_reverse]
    rcases (hd.playing (s.heard.channel b rfl)).1 with ⟨hnone, -⟩ | ⟨hone, hsilent⟩
    · rw [hnone]
      exact halternates
    · rw [hone]
      refine List.isChain_cons.mpr ⟨fun t ht hboth => ?_, halternates⟩
      -- What plays now did not play before, so the last that was heard is a stop.
      have hp := hsilent hboth.1
      cases (HostCall.head?_tones_of_silent (hsounding.trans hp) t ht).symm.trans hboth.2
  tone := ⟨hd.tone.1.trans s.tone.1, hd.tone.2.trans s.tone.2⟩
  sampled := hd.sampled s.sampled

theorem Session.performAll {b₀ : Beeper} {old : List HostCall} (s : Session b₀ old b h)
    (ops : List BeeperOperation) :
    Session b₀ old (b.performAll h ops).1 (b.performAll h ops).2 := by
  induction ops generalizing b h with
  | nil => exact s
  | cons op ops ih =>
    obtain ⟨_, _, _, hd, hh⟩ := b.perform_does h op
    exact ih (s.does hd (congrArg Host.calls hh))

/-- Without a shutdown at most one sound is built. -/
theorem performAll_builds (b : Beeper) (h : Host) {ops : List BeeperOperation}
    (hops : .shutdown ∉ ops) :
    ∃ calls, (b.performAll h ops).2.calls = calls ++ h.calls ∧
      calls.countP HostCall.buildsSound ≤ if b.sound.isSome then 0 else 1 := by
  induction ops generalizing b h with
  | nil => exact ⟨[], rfl, Nat.zero_le _⟩
  | cons op ops ih =>
    rw [List.mem_cons, not_or] at hops
    obtain ⟨_, _, made, hd, hh⟩ := b.perform_does h op
    obtain ⟨calls, hcalls, hle⟩ := ih (b.perform h op).2.1 (b.perform h op).2.2 hops.2
    have hmore : (b.perform h op).2.2.calls = made.reverse ++ h.calls := congrArg Host.calls hh
    refine ⟨calls ++ made.reverse, ?_, ?_⟩
    · rw [List.append_assoc, ← hmore]
      exact hcalls
    · have hmade := hd.builds_le (Ne.symm hops.1)
      rw [List.countP_append, List.countP_reverse]
      omega

/-- A tone that cannot be sampled is refused, and nothing has happened. -/
theorem Session.set_of_error {b₀ : Beeper} {old : List HostCall} {e : ToneError}
    (s : Session b₀ old b h)
    (he : Tone.squareWave b₀.sampleRate b₀.frequency Tone.defaultAmplitude = .error e) :
    b.set true h = (.error e, b, h) := by
  rw [← s.tone.1, ← s.tone.2] at he
  have hsound : b.sound = none := by
    rw [← Option.not_isSome_iff_eq_none]
    intro hsome
    obtain ⟨samples, hs⟩ := s.sampled.samples hsome
    cases he.symm.trans hs
  have hsilent : b.playing = false := by
    rw [← Bool.not_eq_true]
    intro hp
    have hsome := s.sampled.sound hp
    rw [hsound] at hsome
    cases hsome
  simp [set, withSound, hsilent, hsound, he]

theorem session_of_create {rate frequency volume : Quantity} {h₀ : Host}
    (hc : create rate frequency volume h₀ = (.ok b, h)) : Session b h.calls b h := by
  have hnew : b.playing = false ∧ b.sound = none := by
    unfold create at hc
    split at hc
    · cases hc
    · split at hc
      · cases hc
      · cases hc
        exact ⟨rfl, rfl⟩
  obtain ⟨hsilent, hsound⟩ := hnew
  refine ⟨.of_silent rfl fun b' hb => ?_, fun calls hcalls => ?_, ⟨rfl, rfl⟩, ?_, ?_⟩
  · cases hb
    exact hsilent
  · rw [List.self_eq_append_left.mp hcalls]
    exact .nil
  · rw [hsilent]
    nofun
  · rw [hsound]
    nofun

end

/-- **What a beeper says is what its host was told.** At any moment since its creation it plays if
the last that was said of the tone was to play, and no two calls to play come without one to stop
between them. It asks for a channel only if it holds none, builds one sound at most until it is
shut down, and then is silent. A tone that cannot be sampled is refused and leaves no trace. -/
theorem session_mirrors_host {rate frequency volume : Quantity} {h₀ h : Host} {b : Beeper}
    (hc : create rate frequency volume h₀ = (.ok b, h)) (ops : List BeeperOperation) :
    let s := b.performAll h ops
    (∃ calls, s.2.calls = calls ++ h.calls ∧
      (s.1.playing = true ↔ calls.findSome? HostCall.tone? = some true) ∧
      HostCall.Alternates calls) ∧
    (∀ op, ∃ calls, (s.1.perform s.2 op).2.2.calls = calls ++ s.2.calls ∧
      calls.countP HostCall.asksChannel ≤ if s.1.channel then 0 else 1) ∧
    (∀ later, .shutdown ∉ later → ∃ calls, (s.1.performAll s.2 later).2.calls = calls ++ s.2.calls ∧
      calls.countP HostCall.buildsSound ≤ 1) ∧
    (s.1.shutdown s.2).1.playing = false ∧
    ∀ e, Tone.squareWave b.sampleRate b.frequency Tone.defaultAmplitude = .error e →
      s.1.set true s.2 = (.error e, s.1, s.2) ∧
      ∀ later, s.1.performAll s.2 (.set true :: later) = s.1.performAll s.2 later := by
  intro s
  have hs : Session b h.calls s.1 s.2 := (session_of_create hc).performAll ops
  refine ⟨?_, fun op => ?_, fun later hlater => ?_, rfl, fun e he => ?_⟩
  · obtain ⟨calls, hcalls, -, hsounding⟩ := hs.heard.tone
    refine ⟨calls, hcalls, ?_, hs.alternates calls hcalls⟩
    have hplaying : s.1.playing = (calls.findSome? HostCall.tone?).getD false := hsounding.symm
    rw [hplaying]
    cases calls.findSome? HostCall.tone? <;> simp
  · obtain ⟨_, _, made, hd, hh⟩ := s.1.perform_does s.2 op
    exact ⟨made.reverse, congrArg Host.calls hh, (List.countP_reverse).trans_le hd.asks_le⟩
  · obtain ⟨calls, hcalls, hle⟩ := s.1.performAll_builds s.2 hlater
    refine ⟨calls, hcalls, Nat.le_trans hle ?_⟩
    split <;> omega
  · have hset := hs.set_of_error he
    refine ⟨hset, fun later => ?_⟩
    show (let (_, b', h') := s.1.set true s.2; b'.performAll h' later) = _
    rw [hset]

/-- A host that gives a channel only when it is asked again, and a tone of no frequency. -/
theorem session_mirrors_host_second_channel :
    (∃ b h, create Host.standardRate Tone.defaultFrequency defaultVolume
        { Host.quiet with channels := [false, true] } = (.ok b, h) ∧
      let s := b.performAll h [.set true, .set true, .set false, .shutdown, .set true]
      ∃ calls, s.2.calls = calls ++ h.calls ∧
        (s.1.playing = true ↔ calls.findSome? HostCall.tone? = some true) ∧
        HostCall.Alternates calls) ∧
    ∃ b h, create Host.standardRate (.whole 0) defaultVolume Host.quiet = (.ok b, h) ∧
      Tone.squareWave b.sampleRate b.frequency Tone.defaultAmplitude = .error .frequency ∧
      let s := b.performAll h [.set true, .shutdown]
      s.1.set true s.2 = (.error .frequency, s.1, s.2) := by
  have hc : create Host.standardRate Tone.defaultFrequency defaultVolume
      { Host.quiet with channels := [false, true] } = (.ok _, _) := rfl
  have hmute : create Host.standardRate (.whole 0) defaultVolume Host.quiet = (.ok _, _) := rfl
  have hplays := session_mirrors_host hc [.set true, .set true, .set false, .shutdown, .set true]
  have hfails := session_mirrors_host hmute [.set true, .shutdown]
  exact ⟨⟨_, _, hc, hplays.1⟩, _, _, hmute, rfl, (hfails.2.2.2.2 _ rfl).1⟩

end Beeper

end Chip8
