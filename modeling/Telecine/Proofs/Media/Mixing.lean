import Mathlib.Data.List.Basic
import Telecine.Proofs.Media.Interleaving

/-! What a mix makes of each sample, and of blocks that follow one another. Additions of samples do not
associate, so the order of the inputs is kept everywhere; nothing here looks into the arithmetic. -/
namespace Telecine
namespace Sound

def sample (s : Sound) (channel frame : Nat) : Float32 := (s.channels.getD channel []).getD frame 0

def append (a b : Sound) : Sound :=
  ⟨a.frames + b.frames, List.zipWith (· ++ ·) a.channels b.channels⟩

theorem sampleAt {s : Sound} {channel frame : Nat} (inside : channel < s.channels.length)
    (low : frame < s.channels[channel].length) :
    s.sample channel frame = s.channels[channel][frame] := by
  simp [sample, inside, low]

theorem sameSamples {a b : Sound} (left : a.Uniform) (right : b.Uniform) (frames : a.frames = b.frames)
    (channels : a.channels.length = b.channels.length)
    (same : ∀ c < a.channels.length, ∀ f < a.frames, a.sample c f = b.sample c f) : a = b := by
  obtain ⟨count, channelsA⟩ := a
  obtain ⟨_, channelsB⟩ := b
  obtain rfl : count = _ := frames
  simp only [Sound.mk.injEq, true_and]
  refine List.ext_getElem channels fun c inA inB => ?_
  have lengthA : channelsA[c].length = count := left _ (List.getElem_mem inA)
  have lengthB : channelsB[c].length = count := right _ (List.getElem_mem inB)
  refine List.ext_getElem (lengthA.trans lengthB.symm) fun f lowA lowB => ?_
  have agree := same c inA f (lengthA ▸ lowA)
  rwa [sampleAt inA lowA, sampleAt inB lowB] at agree

section Append
variable {a b : Sound}

theorem appendChannels (same : a.channels.length = b.channels.length) :
    (a.append b).channels.length = a.channels.length := by
  simp [append, same]

theorem appendUniform (left : a.Uniform) (right : b.Uniform) : (a.append b).Uniform := by
  intro channel member
  obtain ⟨index, inside, rfl⟩ := List.getElem_of_mem member
  simp only [append, List.length_zipWith] at inside
  simp [append, left _ (List.getElem_mem (by omega : index < a.channels.length)),
    right _ (List.getElem_mem (by omega : index < b.channels.length))]

theorem appendInside {channel : Nat} (inA : channel < a.channels.length)
    (inB : channel < b.channels.length) :
    (a.append b).channels.getD channel [] = a.channels[channel] ++ b.channels[channel] := by
  have inside : channel < (a.append b).channels.length := by
    simp only [append, List.length_zipWith]
    omega
  rw [List.getD_eq_getElem _ _ inside]
  exact List.getElem_zipWith

theorem appendOutside {channel : Nat} (out : a.channels.length ≤ channel) :
    (a.append b).channels.getD channel [] = [] := by
  refine List.getD_eq_default _ _ ?_
  simp only [append, List.length_zipWith]
  omega

theorem appendBefore (left : a.Uniform) (same : a.channels.length = b.channels.length)
    (channel : Nat) {frame : Nat} (low : frame < a.frames) :
    (a.append b).sample channel frame = a.sample channel frame := by
  rcases Nat.lt_or_ge channel a.channels.length with inA | out
  · have length : a.channels[channel].length = a.frames := left _ (List.getElem_mem inA)
    rw [sample, sample, appendInside inA (same ▸ inA), List.getD_append _ _ _ _ (by omega),
      List.getD_eq_getElem _ _ inA]
  · rw [sample, sample, appendOutside out, List.getD_eq_default _ _ out]

theorem appendAfter (left : a.Uniform) (same : a.channels.length = b.channels.length)
    (channel frame : Nat) : (a.append b).sample channel (a.frames + frame) = b.sample channel frame := by
  rcases Nat.lt_or_ge channel a.channels.length with inA | out
  · have inB : channel < b.channels.length := same ▸ inA
    have length : a.channels[channel].length = a.frames := left _ (List.getElem_mem inA)
    rw [sample, sample, appendInside inA inB, List.getD_append_right _ _ _ _ (by omega), length,
      Nat.add_sub_cancel_left, List.getD_eq_getElem b.channels _ inB]
  · have outB : b.channels.length ≤ channel := same ▸ out
    rw [sample, sample, appendOutside out, List.getD_eq_default b.channels _ outB]
    rfl

theorem frameRow (s : Sound) (frame : Nat) : s.channels.map (·.getD frame 0) =
    (List.range s.channels.length).map fun channel => s.sample channel frame := by
  refine List.ext_getElem (by simp) fun channel low _ => ?_
  have inside : channel < s.channels.length := by simpa using low
  simp [sample, inside]

theorem interleavedAppend (left : a.Uniform) (same : a.channels.length = b.channels.length) :
    (a.append b).interleaved = a.interleaved ++ b.interleaved := by
  have early : ∀ frame ∈ List.range a.frames,
      (a.append b).channels.map (·.getD frame 0) = a.channels.map (·.getD frame 0) := by
    intro frame member
    rw [frameRow, frameRow, appendChannels same]
    simp [appendBefore left same _ (List.mem_range.mp member)]
  have late : ∀ frame ∈ List.range b.frames,
      (a.append b).channels.map (·.getD (a.frames + frame) 0) = b.channels.map (·.getD frame 0) := by
    intro frame _
    rw [frameRow, frameRow, appendChannels same]
    simp [appendAfter left same, same]
  rw [interleaved, show (a.append b).frames = a.frames + b.frames from rfl, List.range_add,
    List.flatMap_append, List.flatMap_map]
  simp only [interleaved, List.flatMap_def, List.map_congr_left early, List.map_congr_left late]

end Append
end Sound

namespace Mix
variable (m : Mix) {s : Sound}

def reaching (s : Sound) (output : Nat) : List Nat :=
  (List.range (min s.channels.length m.inputs)).filter fun input => !(m.weight input output == 0)

def total (s : Sound) (output frame : Nat) : Float32 :=
  (m.reaching s output).foldl
    (fun sum input => sum + s.sample input frame * m.weight input output) 0

def into (output : Nat) (total : List Float32) (input : List Float32 × Nat) : List Float32 :=
  if m.weight input.2 output == 0 then total else addScaled (m.weight input.2 output) total input.1

def addInput (totals : List (List Float32)) (input : List Float32 × Nat) : List (List Float32) :=
  totals.mapIdx fun output total => m.into output total input

def inPlace (s : Sound) : List (List Float32) :=
  (s.channels.take m.inputs).zipIdx.foldl m.addInput
    (List.replicate m.outputs (List.replicate s.frames 0))

theorem inputsIndexed (channels : List (List Float32)) (inputs : Nat) :
    (channels.take inputs).zipIdx =
      (List.range (min channels.length inputs)).map fun input => (channels.getD input [], input) := by
  refine List.ext_getElem (by simp [Nat.min_comm]) fun input low high => ?_
  have inside : input < channels.length := by simp at high; omega
  simp [inside]

theorem gainInside {input output : Nat} (inside : input < m.inputs) (within : output < m.outputs) :
    m.gain input output = m.weight input output := if_pos ⟨inside, within⟩

theorem outputInto (s : Sound) {output : Nat} (inside : output < m.outputs) :
    m.outputChannel s output =
      (s.channels.take m.inputs).zipIdx.foldl (m.into output) (List.replicate s.frames 0) := by
  refine List.foldl_ext _ _ _ fun total input member => ?_
  have few : input.2 < m.inputs := by
    have low := List.snd_lt_of_mem_zipIdx member
    rw [List.length_take] at low
    omega
  simp only [m.gainInside few inside, into]

theorem intoLength (output : Nat) (total : List Float32) (input : List Float32 × Nat) :
    (m.into output total input).length = total.length := by
  unfold into
  split
  · rfl
  · exact addScaledLength ..

theorem intoSample {frames frame output : Nat} (low : frame < frames) {total : List Float32}
    {input : List Float32 × Nat} (size : total.length = frames) (length : input.1.length = frames) :
    (m.into output total input).getD frame 0 =
      if m.weight input.2 output == 0 then total.getD frame 0
      else total.getD frame 0 + input.1.getD frame 0 * m.weight input.2 output := by
  unfold into
  split
  · rfl
  · simp [addScaled, List.getD_eq_getElem?_getD, size, length, low]

theorem foldSample {frames frame output : Nat} (low : frame < frames)
    {inputs : List (List Float32 × Nat)} (full : ∀ input ∈ inputs, input.1.length = frames)
    {total : List Float32} (size : total.length = frames) :
    (inputs.foldl (m.into output) total).getD frame 0 =
      inputs.foldl (fun sum input => if m.weight input.2 output == 0 then sum
        else sum + input.1.getD frame 0 * m.weight input.2 output) (total.getD frame 0) := by
  induction inputs generalizing total with
  | nil => rfl
  | cons input inputs ih =>
    have length := full input List.mem_cons_self
    rw [List.foldl_cons, List.foldl_cons, ← m.intoSample low size length]
    exact ih (fun next member => full next (List.mem_cons_of_mem _ member))
      ((m.intoLength output total input).trans size)

theorem applySample (uniform : s.Uniform) {output frame : Nat} (inside : output < m.outputs)
    (low : frame < s.frames) : (m.apply s).sample output frame = m.total s output frame := by
  have full : ∀ input ∈ (s.channels.take m.inputs).zipIdx, input.1.length = s.frames :=
    fun input member => uniform _ (List.mem_of_mem_take (List.fst_mem_of_mem_zipIdx member))
  have silent : (List.replicate s.frames (0 : Float32)).getD frame 0 = 0 := by simp [low]
  calc (m.apply s).sample output frame
      = (m.outputChannel s output).getD frame 0 := by simp [Sound.sample, apply, inside]
    _ = (List.range (min s.channels.length m.inputs)).foldl (fun sum input =>
          if m.weight input output == 0 then sum
          else sum + s.sample input frame * m.weight input output) 0 := by
        rw [m.outputInto s inside, m.foldSample low full List.length_replicate, silent, inputsIndexed,
          List.foldl_map]
        rfl
    _ = m.total s output frame := by
        rw [total, reaching, List.foldl_filter]
        congr 1
        funext sum input
        cases m.weight input output == 0 <;> rfl

/-- The outputs do not touch one another, so the two loops over inputs and outputs can be exchanged. -/
theorem foldRows (inputs : List (List Float32 × Nat)) (totals : Nat → List Float32) :
    inputs.foldl m.addInput ((List.range m.outputs).map totals) =
      (List.range m.outputs).map fun output => inputs.foldl (m.into output) (totals output) := by
  induction inputs generalizing totals with
  | nil => rfl
  | cons input inputs ih =>
    have row : m.addInput ((List.range m.outputs).map totals) input =
        (List.range m.outputs).map fun output => m.into output (totals output) input :=
      List.ext_getElem (by simp [addInput]) fun output _ _ => by simp [addInput]
    rw [List.foldl_cons, row, ih]
    rfl

theorem applyInPlace (s : Sound) : (m.apply s).channels = m.inPlace s := by
  have silent : List.replicate m.outputs (List.replicate s.frames (0 : Float32)) =
      (List.range m.outputs).map fun _ => List.replicate s.frames 0 := by
    rw [List.map_const', List.length_range]
  rw [inPlace, silent, foldRows]
  exact List.map_congr_left fun output low => m.outputInto s (List.mem_range.mp low)

theorem applyAppend {a b : Sound} (left : a.Uniform) (right : b.Uniform)
    (same : a.channels.length = b.channels.length) :
    m.apply (a.append b) = (m.apply a).append (m.apply b) := by
  have uniform := Sound.appendUniform left right
  have mixedA := m.applyUniform a
  have outputs : (m.apply a).channels.length = (m.apply b).channels.length := by simp
  refine Sound.sameSamples (m.applyUniform (a.append b))
    (Sound.appendUniform mixedA (m.applyUniform b)) rfl
    (by simp [Sound.appendChannels outputs]) fun output inside frame low => ?_
  rw [applyChannels] at inside
  rw [m.applySample uniform inside low]
  rcases Nat.lt_or_ge frame a.frames with early | late
  · rw [Sound.appendBefore mixedA outputs output early, m.applySample left inside early]
    simp only [total, reaching, Sound.appendChannels same, Sound.appendBefore left same _ early]
  · obtain ⟨later, rfl⟩ := Nat.exists_eq_add_of_le late
    have within : later < b.frames := Nat.lt_of_add_lt_add_left low
    rw [← m.applyFrames a, Sound.appendAfter mixedA outputs, m.applySample right inside within]
    simp only [total, reaching, Sound.appendChannels same, applyFrames, Sound.appendAfter left same,
      same]

end Mix
end Telecine
