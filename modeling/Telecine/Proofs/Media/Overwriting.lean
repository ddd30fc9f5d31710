import Telecine.Proofs.Clock.Frames
import Telecine.Proofs.Media.Mixing

/-! Blocks of sound that are used again. Interleaved samples written over a block replace everything that
it held, so that what comes of it is the same as with a fresh block; and the interleaved form and the
channels give one another back, both ways. -/
namespace Telecine.Sound

structure Shaped (s t : Sound) : Prop where
  uniform : t.Uniform
  frames : t.frames = s.frames
  channels : t.channels.length = s.channels.length

theorem Shaped.trans {s t u : Sound} (first : Shaped s t) (second : Shaped t u) : Shaped s u :=
  ⟨second.uniform, second.frames.trans first.frames, second.channels.trans first.channels⟩

section Writes
variable {s : Sound}

theorem setExact {channel frame : Nat} (uniform : s.Uniform) (inside : channel < s.channels.length)
    (low : frame < s.frames) (value : Float32) : ∃ t, s.set channel frame value = .ok t ∧ Shaped s t ∧
      ∀ c f, t.sample c f = if c = channel ∧ f = frame then value else s.sample c f := by
  have length : s.channels[channel].length = s.frames := uniform _ (List.getElem_mem inside)
  refine ⟨{ s with channels := s.channels.set channel (s.channels[channel].set frame value) }, ?_,
    ⟨?_, rfl, List.length_set⟩, fun c f => ?_⟩
  · simp only [set, List.getElem?_eq_getElem inside, length, low, if_true]
    rfl
  · intro samples member
    rcases List.mem_or_eq_of_mem_set member with old | rfl
    · exact uniform samples old
    · rw [List.length_set, length]
  · by_cases here : c = channel
    · subst here
      by_cases now : f = frame
      · subst now
        simp [sample, inside, length, low]
      · simp [sample, inside, now, List.getD_eq_getElem?_getD, List.getElem?_set_ne (Ne.symm now)]
    · simp [sample, here, List.getD_eq_getElem?_getD, List.getElem?_set_ne (Ne.symm here)]

theorem writeFrameExact {frame channel : Nat} {row : List Float32} (uniform : s.Uniform)
    (fits : channel + row.length ≤ s.channels.length) (low : frame < s.frames) :
    ∃ t, writeFrame frame channel row s = .ok t ∧ Shaped s t ∧ ∀ c f, t.sample c f =
      if f = frame ∧ channel ≤ c ∧ c < channel + row.length then row.getD (c - channel) 0
      else s.sample c f := by
  induction row generalizing channel s with
  | nil =>
    refine ⟨s, rfl, ⟨uniform, rfl, rfl⟩, fun c f => ?_⟩
    rw [if_neg (by rw [List.length_nil]; omega)]
  | cons value row ih =>
    rw [List.length_cons] at fits
    have inside : channel < s.channels.length := by omega
    obtain ⟨t, wrote, shaped, sampled⟩ := setExact uniform inside low value
    have rest : channel + 1 + row.length ≤ t.channels.length := by rw [shaped.channels]; omega
    obtain ⟨u, wrote', shaped', sampled'⟩ := ih shaped.uniform rest (shaped.frames ▸ low)
    refine ⟨u, ?_, shaped.trans shaped', fun c f => ?_⟩
    · simp only [writeFrame, wrote, bind, Except.bind]
      exact wrote'
    · rw [sampled', sampled, List.length_cons]
      by_cases now : f = frame
      · rcases Nat.lt_trichotomy c channel with before | rfl | after
        · rw [if_neg (by omega), if_neg (by omega), if_neg (by omega)]
        · rw [if_neg (by omega), if_pos ⟨rfl, now⟩, if_pos (by omega), Nat.sub_self]
          rfl
        · have next : c - channel = c - (channel + 1) + 1 := by omega
          rw [next, List.getD_cons_succ]
          by_cases written : c < channel + 1 + row.length
          · rw [if_pos (by omega), if_pos (by omega)]
          · rw [if_neg (by omega), if_neg (by omega), if_neg (by omega)]
      · rw [if_neg (by omega), if_neg (by omega), if_neg (by omega)]

theorem writeFramesExact {width count frame : Nat} {samples : List Float32} (uniform : s.Uniform)
    (wide : s.channels.length = width) (size : samples.length = count * width)
    (fits : frame + count ≤ s.frames) :
    ∃ t, writeFrames width count frame samples s = .ok t ∧ Shaped s t ∧ ∀ c < width, ∀ f, t.sample c f =
      if frame ≤ f ∧ f < frame + count then samples.getD ((f - frame) * width + c) 0
      else s.sample c f := by
  induction count generalizing frame samples s with
  | zero => exact ⟨s, rfl, ⟨uniform, rfl, rfl⟩, fun c _ f => by rw [if_neg (by omega)]⟩
  | succ count ih =>
    rw [Nat.succ_mul] at size
    have row : (samples.take width).length = width := by rw [List.length_take]; omega
    have rest : (samples.drop width).length = count * width := by rw [List.length_drop]; omega
    have inside : 0 + (samples.take width).length ≤ s.channels.length := by omega
    have early : frame < s.frames := by omega
    obtain ⟨t, wrote, shaped, sampled⟩ := writeFrameExact uniform inside early
    have fits' : frame + 1 + count ≤ t.frames := by rw [shaped.frames]; omega
    obtain ⟨u, wrote', shaped', sampled'⟩ :=
      ih shaped.uniform (shaped.channels.trans wide) rest fits'
    refine ⟨u, ?_, shaped.trans shaped', fun c low f => ?_⟩
    · simp only [writeFrames, wrote, bind, Except.bind]
      exact wrote'
    · rw [sampled' c low, sampled, row]
      rcases Nat.lt_trichotomy f frame with before | rfl | after
      · rw [if_neg (by omega), if_neg (by omega), if_neg (by omega)]
      · rw [if_neg (by omega), if_pos (by omega), if_pos (by omega), Nat.sub_self, Nat.zero_mul,
          Nat.zero_add, Nat.sub_zero, firstFrame low]
      · by_cases written : f < frame + 1 + count
        · have next : f - frame = f - (frame + 1) + 1 := by omega
          rw [if_pos (by omega), if_pos (by omega), laterFrame, next]
        · rw [if_neg (by omega), if_neg (by omega), if_neg (by omega)]

theorem laidOutUniform (channels frames : Nat) (samples : List Float32) :
    (laidOut channels frames samples).Uniform := by
  intro samples member
  obtain ⟨c, _, rfl⟩ := List.mem_map.mp member
  simp [laidOut]

theorem laidOutSample {channels frames c f : Nat} (inside : c < channels) (low : f < frames)
    (samples : List Float32) :
    (laidOut channels frames samples).sample c f = samples.getD (f * channels + c) 0 := by
  simp [laidOut, sample, inside, low]

theorem overwriteExact {samples : List Float32} (uniform : s.Uniform) (some : 0 < s.channels.length)
    (size : samples.length = s.channels.length * s.frames) :
    s.overwrite samples = .ok (laidOut s.channels.length s.frames samples) := by
  have sound : ¬ (samples.length ≠ s.channels.length * s.frames ∨ s.channels.length = 0) := by omega
  have count : samples.length / s.channels.length = s.frames := by
    rw [size, Nat.mul_div_cancel_left _ some]
  obtain ⟨t, wrote, shaped, sampled⟩ := writeFramesExact uniform rfl
    (by rw [size, Nat.mul_comm] : samples.length = s.frames * s.channels.length)
    (Nat.le_of_eq (Nat.zero_add s.frames))
  have same : t = laidOut s.channels.length s.frames samples := by
    refine sameSamples shaped.uniform (laidOutUniform _ _ _) shaped.frames
      (by simp [shaped.channels, laidOut]) fun c inside f low => ?_
    rw [shaped.channels] at inside
    rw [shaped.frames] at low
    rw [sampled c inside, if_pos (by omega), laidOutSample inside low, Nat.sub_zero]
  simp only [overwrite, if_neg sound, count]
  exact wrote.trans (congrArg Except.ok same)

theorem overwriteRefused {samples : List Float32}
    (amiss : samples.length ≠ s.channels.length * s.frames ∨ s.channels.length = 0) :
    s.overwrite samples = .error .precondition := by
  simp only [overwrite, if_pos amiss]
  rfl

theorem overwriteFresh (uniform : s.Uniform) (samples : List Float32) :
    s.overwrite samples = deinterleave s.channels.length s.frames samples := by
  by_cases amiss : samples.length ≠ s.channels.length * s.frames ∨ s.channels.length = 0
  · rw [overwriteRefused amiss, deinterleave, if_pos amiss]
    rfl
  · have some : 0 < s.channels.length := by omega
    have size : samples.length = s.channels.length * s.frames := by omega
    rw [overwriteExact uniform some size, deinterleaveExact some size]

theorem interleaveOntoExact (uniform : s.Uniform) (out : List Float32) :
    s.interleaveOnto out = .ok (out ++ s.interleaved) := by
  obtain ⟨frames, channels⟩ := s
  cases channels with
  | nil => simp [interleaveOnto, interleaved]
  | cons c rest => simpa [interleaveOnto, interleaved] using interleaveFromExact uniform out.reverse

theorem interleavedSample {c f : Nat} (inside : c < s.channels.length) (low : f < s.frames) :
    s.interleaved[f * s.channels.length + c]? = some (s.sample c f) := by
  rw [interleaved, rowsAt (by simp) low inside, frameRow]
  simp [inside]

theorem interleavedLaidOut {channels frames : Nat} {samples : List Float32} (some : 0 < channels)
    (size : samples.length = channels * frames) :
    (laidOut channels frames samples).interleaved = samples := by
  have width : (laidOut channels frames samples).channels.length = channels := by simp [laidOut]
  have length : (laidOut channels frames samples).interleaved.length = samples.length := by
    rw [interleavedLength, width, size, Nat.mul_comm]
    rfl
  refine List.ext_getElem length fun i _ within => ?_
  have low : i / channels < frames := Nat.div_lt_of_lt_mul (size ▸ within)
  have inside : i % channels < channels := Nat.mod_lt i some
  have cell := @interleavedSample (laidOut channels frames samples) _ _ (width.symm ▸ inside) low
  rw [width, laidOutSample inside low, Nat.div_add_mod', List.getD_eq_getElem _ _ within] at cell
  exact (List.getElem?_eq_some_iff.mp cell).2

end Writes

inductive Formed : Sound → Prop
  | silence {channels frames s} (made : Sound.silence channels frames = .ok s) : Formed s
  | ofChannels {channels s} (made : ofChannels? channels = some s) : Formed s
  | mixed {s} (m : Mix) (formed : Formed s) : Formed (m.apply s)
  | written {s t channel frame value} (formed : Formed s)
      (wrote : s.set channel frame value = .ok t) : Formed t
  | overwritten {s t samples} (formed : Formed s) (wrote : s.overwrite samples = .ok t) : Formed t

section Formed
variable {s t : Sound}

theorem silenceUniform {channels frames : Nat} (made : silence channels frames = .ok s) : s.Uniform := by
  obtain ⟨_, _, made⟩ := checkedBound made
  obtain ⟨_, _, made⟩ := checkedBound made
  cases made
  intro samples member
  obtain ⟨_, _, rfl⟩ := List.mem_map.mp member
  exact List.length_replicate

theorem ofChannelsUniform {channels : List (List Float32)} (made : ofChannels? channels = some s) :
    s.Uniform := by
  unfold ofChannels? at made
  dsimp only at made
  split at made
  · rename_i even
    cases made
    intro samples member
    exact of_decide_eq_true (List.all_eq_true.mp even samples member)
  · cases made

theorem setUniform {channel frame : Nat} {value : Float32} (uniform : s.Uniform)
    (wrote : s.set channel frame value = .ok t) : t.Uniform := by
  cases here : s.channels[channel]? with
  | none =>
    simp only [set, here] at wrote
    cases wrote
  | some samples =>
    obtain ⟨inside, rfl⟩ := List.getElem?_eq_some_iff.mp here
    have length : s.channels[channel].length = s.frames := uniform _ (List.getElem_mem inside)
    by_cases low : frame < s.frames
    · obtain ⟨_, same, shaped, _⟩ := setExact uniform inside low value
      cases same.symm.trans wrote
      exact shaped.uniform
    · simp only [set, here, length, low, if_false] at wrote
      cases wrote

theorem overwriteOk {samples : List Float32} (uniform : s.Uniform)
    (wrote : s.overwrite samples = .ok t) : t = laidOut s.channels.length s.frames samples := by
  by_cases amiss : samples.length ≠ s.channels.length * s.frames ∨ s.channels.length = 0
  · cases (overwriteRefused amiss).symm.trans wrote
  · exact Except.ok.inj (wrote.symm.trans (overwriteExact uniform (by omega) (by omega)))

theorem overwriteFails {samples : List Float32} {fault : Fault} (uniform : s.Uniform)
    (fails : s.overwrite samples = .error fault) : fault = .precondition ∧
      (samples.length ≠ s.channels.length * s.frames ∨ s.channels.length = 0) := by
  by_cases amiss : samples.length ≠ s.channels.length * s.frames ∨ s.channels.length = 0
  · exact ⟨Except.error.inj (fails.symm.trans (overwriteRefused amiss)), amiss⟩
  · cases fails.symm.trans (overwriteExact uniform (by omega) (by omega))

theorem formedUniform (formed : s.Formed) : s.Uniform := by
  induction formed with
  | silence made => exact silenceUniform made
  | ofChannels made => exact ofChannelsUniform made
  | @mixed s m _ _ => exact m.applyUniform s
  | written _ wrote ih => exact setUniform ih wrote
  | overwritten _ wrote ih => exact overwriteOk ih wrote ▸ laidOutUniform _ _ _

theorem channelSample (uniform : s.Uniform) {c f : Nat} (inside : c < s.channels.length)
    (low : f < s.frames) :
    ∃ channel, s.channel c = .ok channel ∧ channel[f]? = some (s.sample c f) := by
  have length : s.channels[c].length = s.frames := uniform _ (List.getElem_mem inside)
  refine ⟨s.channels[c], ?_, ?_⟩
  · simp only [channel, List.getElem?_eq_getElem inside]
    rfl
  · rw [sampleAt inside (length ▸ low), List.getElem?_eq_getElem]

end Formed

theorem interleavingInverse :
    (∀ s : Sound, s.Formed → s.Uniform ∧ (∀ out, s.interleaveOnto out = .ok (out ++ s.interleaved)) ∧
      (∀ samples, s.overwrite samples = deinterleave s.channels.length s.frames samples) ∧
      ∀ samples fault, s.overwrite samples = .error fault → fault = .precondition ∧
        (samples.length ≠ s.channels.length * s.frames ∨ s.channels.length = 0)) ∧
    ∀ target : Sound, target.Formed → 0 < target.channels.length →
      (∀ samples out, samples.length = target.channels.length * target.frames →
        ∃ filled, target.overwrite samples = .ok filled ∧
          filled.interleaveOnto out = .ok (out ++ samples)) ∧
      ∀ s : Sound, s.Formed → s.channels.length = target.channels.length → s.frames = target.frames →
        ∃ samples, s.interleaveOnto [] = .ok samples ∧ target.overwrite samples = .ok s ∧
          samples.length = s.channels.length * s.frames ∧
          ∀ c < s.channels.length, ∀ f < s.frames, ∃ channel value, s.channel c = .ok channel ∧
            channel[f]? = some value ∧ samples[f * s.channels.length + c]? = some value := by
  refine ⟨fun s formed => ?_, fun target formed some => ⟨fun samples out size => ?_, ?_⟩⟩
  · have uniform := formedUniform formed
    exact ⟨uniform, interleaveOntoExact uniform, overwriteFresh uniform,
      fun samples fault => overwriteFails uniform⟩
  · have wrote := overwriteExact (formedUniform formed) some size
    refine ⟨_, wrote, ?_⟩
    rw [interleaveOntoExact (laidOutUniform _ _ _), interleavedLaidOut some size]
  · intro s own channels frames
    have uniform := formedUniform own
    have size : s.interleaved.length = s.channels.length * s.frames := by
      rw [interleavedLength, Nat.mul_comm]
    refine ⟨s.interleaved, interleaveOntoExact uniform [], ?_, size, fun c inside f low => ?_⟩
    · rw [overwriteExact (formedUniform formed) some (by rw [size, channels, frames]), ← channels,
        ← frames, laidOutInterleaved uniform]
    · obtain ⟨channel, held, here⟩ := channelSample uniform inside low
      exact ⟨channel, _, held, here, interleavedSample inside low⟩

theorem twoChannelsInverse : ∃ target filled, silence 2 3 = .ok target ∧
    target.overwrite [1, -1, 2, -2, 3, -3] = .ok filled ∧
    filled.interleaveOnto [9] = .ok [9, 1, -1, 2, -2, 3, -3] := by
  have made : silence 2 3 = .ok ⟨3, [[0, 0, 0], [0, 0, 0]]⟩ := rfl
  obtain ⟨filled, wrote, back⟩ := (interleavingInverse.2 _ (.silence made) (by decide)).1
    [1, -1, 2, -2, 3, -3] [9] rfl
  exact ⟨_, filled, made, wrote, back⟩

end Telecine.Sound
