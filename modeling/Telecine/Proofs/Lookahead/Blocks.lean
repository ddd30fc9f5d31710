import Telecine.Proofs.Lookahead.Faithful
import Telecine.Proofs.Media.Mixing

/-! Sound cut into blocks, and the same sound in one. Mixing goes frame by frame, so where a feed cuts
its sound shows neither in what a consumer heard nor in what still waits for it. -/
namespace Telecine
namespace Sound

def joined (channels : Nat) (blocks : List Sound) : Sound :=
  blocks.foldr append ⟨0, List.replicate channels []⟩

def Alike (channels : Nat) (blocks : List Sound) : Prop :=
  ∀ block ∈ blocks, block.Uniform ∧ block.channels.length = channels

section Joined
variable {channels : Nat} {blocks : List Sound}

theorem joinedChannels (alike : Alike channels blocks) :
    (joined channels blocks).channels.length = channels := by
  induction blocks with
  | nil => simp [joined]
  | cons block blocks ih =>
    obtain ⟨⟨_, count⟩, rest⟩ := List.forall_mem_cons.mp alike
    exact (appendChannels (count.trans (ih rest).symm)).trans count

theorem joinedUniform (alike : Alike channels blocks) : (joined channels blocks).Uniform := by
  induction blocks with
  | nil => exact fun channel member => by rw [(List.mem_replicate.mp member).2]; rfl
  | cons block blocks ih =>
    obtain ⟨⟨uniform, _⟩, rest⟩ := List.forall_mem_cons.mp alike
    exact appendUniform uniform (ih rest)

theorem interleavedJoined (alike : Alike channels blocks) :
    (joined channels blocks).interleaved = blocks.flatMap interleaved := by
  induction blocks with
  | nil => rfl
  | cons block blocks ih =>
    obtain ⟨⟨uniform, count⟩, rest⟩ := List.forall_mem_cons.mp alike
    rw [List.flatMap_cons, ← ih rest]
    exact interleavedAppend uniform (count.trans (joinedChannels rest).symm)

end Joined
end Sound

namespace Mix
open Sound (joined Alike)

theorem alikeApply (m : Mix) (blocks : List Sound) : Alike m.outputs (blocks.map m.apply) := by
  intro mixed member
  obtain ⟨block, _, rfl⟩ := List.mem_map.mp member
  exact ⟨m.applyUniform block, m.applyChannels block⟩

theorem applyJoined (m : Mix) {channels : Nat} {blocks : List Sound} (alike : Alike channels blocks) :
    m.apply (joined channels blocks) = joined m.outputs (blocks.map m.apply) := by
  induction blocks with
  | nil =>
    refine Sound.sameSamples (m.applyUniform (joined channels []))
      (Sound.joinedUniform (m.alikeApply [])) rfl (by simp [joined]) fun _ _ frame low => ?_
    exact absurd low (Nat.not_lt_zero frame)
  | cons block blocks ih =>
    obtain ⟨⟨uniform, count⟩, rest⟩ := List.forall_mem_cons.mp alike
    have appended := m.applyAppend uniform (Sound.joinedUniform rest)
      (count.trans (Sound.joinedChannels rest).symm)
    rw [ih rest] at appended
    exact appended

end Mix

namespace Lookahead
open Readahead
open Sound (joined Alike)

def sounds (items : List Item) : List Sound :=
  items.filterMap fun
    | .picture _ => none
    | .sound sound => some sound

theorem samplesBlocks (mix : Mix) (items : List Item) :
    samples mix items = (sounds items).flatMap fun sound => (mix.apply sound).interleaved := by
  induction items with
  | nil => rfl
  | cons item items ih => cases item <;> simpa [sounds] using ih

theorem blocksJoined (mix : Mix) {channels : Nat} {blocks : List Sound} (alike : Alike channels blocks) :
    (blocks.flatMap fun sound => (mix.apply sound).interleaved) =
      (mix.apply (joined channels blocks)).interleaved := by
  rw [mix.applyJoined alike, Sound.interleavedJoined (mix.alikeApply blocks), List.flatMap_map]

theorem historyHanded {feed : Feed} {mix : Mix} {capacity : Nat} {answers : List Answer}
    {now : Readahead} (h : History (start feed mix capacity) answers now) :
    ∃ handed, handed <+: feed.items ∧ (now.decoder = .gone → handed = feed.items) ∧
      answers.flatMap Answer.heard ++ now.ring.toList = samples mix handed := by
  obtain ⟨handed, reached⟩ := historyReached h
  refine ⟨handed, handedPrefix reached, goneHanded reached, ?_⟩
  obtain ⟨rest, whole⟩ := samplesPrefix mix (handedPrefix reached)
  rw [(historyTaken h).2, reached.ring, ← whole, List.take_append_of_le_length reached.heard,
    List.take_append_drop]

structure Mixed (mix : Mix) (sound mixed : Sound) : Prop where
  channels : mixed.channels.length = mix.outputs
  frames : mixed.frames = sound.frames
  uniform : mixed.Uniform
  sample : ∀ output < mix.outputs, ∀ frame < sound.frames,
    mixed.sample output frame = mix.total sound output frame
  inPlace : mixed.channels = mix.inPlace sound

structure FrameByFrame (mix : Mix) : Prop where
  mixed : ∀ sound : Sound, sound.Uniform → Mixed mix sound (mix.apply sound)
  append : ∀ a b : Sound, a.Uniform → b.Uniform → a.channels.length = b.channels.length →
    mix.apply (a.append b) = (mix.apply a).append (mix.apply b)
  interleave : ∀ a b : Sound, a.Uniform → b.Uniform → a.channels.length = b.channels.length →
    ∃ first second, (mix.apply a).interleave = .ok first ∧ (mix.apply b).interleave = .ok second ∧
      (mix.apply (a.append b)).interleave = .ok (first ++ second)
  cut : ∀ channels blocks, Alike channels blocks →
    mix.apply (joined channels blocks) = joined mix.outputs (blocks.map mix.apply)
  /-- The right side knows nothing of the cuts. -/
  heard : ∀ feed capacity answers now channels, History (start feed mix capacity) answers now →
    Alike channels (sounds feed.items) →
    ∃ handed, handed <+: feed.items ∧ (now.decoder = .gone → handed = feed.items) ∧
      answers.flatMap Answer.heard ++ now.ring.toList =
        (mix.apply (joined channels (sounds handed))).interleaved

theorem mixedByFrame (mix : Mix) : FrameByFrame mix where
  mixed sound uniform :=
    ⟨mix.applyChannels sound, mix.applyFrames sound, mix.applyUniform sound,
      fun _ inside _ low => mix.applySample uniform inside low, mix.applyInPlace sound⟩
  append _ _ left right same := mix.applyAppend left right same
  interleave a b left right same := by
    have outputs : (mix.apply a).channels.length = (mix.apply b).channels.length := by simp
    refine ⟨_, _, Sound.interleaveExact (mix.applyUniform a),
      Sound.interleaveExact (mix.applyUniform b), ?_⟩
    rw [Sound.interleaveExact (mix.applyUniform (a.append b)), mix.applyAppend left right same,
      Sound.interleavedAppend (mix.applyUniform a) outputs]
  cut _ _ alike := mix.applyJoined alike
  heard _ _ _ _ _ h alike := by
    obtain ⟨handed, early, whole, same⟩ := historyHanded h
    have few : Alike _ (sounds handed) :=
      fun sound member => alike sound ((early.sublist.filterMap _).subset member)
    exact ⟨handed, early, whole, by rw [same, samplesBlocks, blocksJoined mix few]⟩

def crossMix : Mix := ⟨2, 2, fun
  | 0, 0 => 2
  | 1, 0 => 3
  | 1, 1 => 1
  | _, _ => 0⟩

def thinBlock : Sound := ⟨1, [[5]]⟩

def shortBlock : Sound := ⟨1, [[1], [3], [9]]⟩

def longBlock : Sound := ⟨2, [[2, 1], [4, 0.5], [9, 9]]⟩

theorem mixedByFrameCrossed :
    thinBlock.Uniform ∧ shortBlock.Uniform ∧ longBlock.Uniform ∧
      (crossMix.apply thinBlock).channels = [[10], [0]] ∧
      (crossMix.apply longBlock).sample 0 1 = 3.5 ∧ (crossMix.apply longBlock).sample 1 1 = 0.5 ∧
      (crossMix.apply (shortBlock.append longBlock)).interleave = .ok ([11, 3] ++ [16, 4, 3.5, 0.5]) := by
  have thin : thinBlock.Uniform := by simp [thinBlock, Sound.Uniform]
  have short : shortBlock.Uniform := by simp [shortBlock, Sound.Uniform]
  have long : longBlock.Uniform := by simp [longBlock, Sound.Uniform]
  have mixed := (mixedByFrame crossMix).mixed longBlock long
  have left : crossMix.total longBlock 0 1 = 3.5 := by decide +kernel
  have right : crossMix.total longBlock 1 1 = 0.5 := by decide +kernel
  have alone : crossMix.inPlace thinBlock = [[10], [0]] := by decide +kernel
  obtain ⟨first, second, before, after, whole⟩ :=
    (mixedByFrame crossMix).interleave shortBlock longBlock short long (by decide)
  have early : (crossMix.apply shortBlock).interleave = .ok [11, 3] := by decide +kernel
  have late : (crossMix.apply longBlock).interleave = .ok [16, 4, 3.5, 0.5] := by decide +kernel
  rw [Except.ok.inj (before.symm.trans early), Except.ok.inj (after.symm.trans late)] at whole
  refine ⟨thin, short, long, ?_, ?_, ?_, whole⟩
  · exact ((mixedByFrame crossMix).mixed thinBlock thin).inPlace.trans alone
  · exact (mixed.sample 0 (by decide) 1 (by decide)).trans left
  · exact (mixed.sample 1 (by decide) 1 (by decide)).trans right

end Lookahead
end Telecine
