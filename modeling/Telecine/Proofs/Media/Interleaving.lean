import Mathlib.Data.List.GetD
import Telecine.Media.Mix

/-! The interleaved form of a block, sample by sample, and the way back. Blocks here are uniform: all
their channels have the length that the block states. -/
namespace Telecine

/-! Rows of one length, one after the other. -/

section Rows
variable {α : Type} {width : Nat} {row : Nat → List α}

theorem rowsLength (even : ∀ f, (row f).length = width) (count : Nat) :
    ((List.range count).flatMap row).length = count * width := by
  induction count with
  | zero => simp
  | succ count ih => simp [List.range_succ, ih, even, Nat.succ_mul]

theorem rowsDrop (even : ∀ f, (row f).length = width) {count f : Nat} (low : f < count) :
    ∃ rest, ((List.range count).flatMap row).drop (f * width) = row f ++ rest := by
  induction count with
  | zero => omega
  | succ count ih =>
    have before := rowsLength even count
    rw [List.range_succ, List.flatMap_append]
    rcases Nat.lt_succ_iff_lt_or_eq.mp low with earlier | rfl
    · obtain ⟨rest, same⟩ := ih earlier
      have within : f * width ≤ count * width := Nat.mul_le_mul_right width (Nat.le_of_lt earlier)
      exact ⟨rest ++ row count, by
        rw [List.drop_append_of_le_length (by omega), same]; simp⟩
    · exact ⟨[], by rw [List.drop_append_of_le_length (by omega), ← before]; simp⟩

theorem rowsAt (even : ∀ f, (row f).length = width) {count f c : Nat} (low : f < count)
    (inside : c < width) :
    ((List.range count).flatMap row)[f * width + c]? = (row f)[c]? := by
  obtain ⟨rest, same⟩ := rowsDrop even low
  rw [← List.getElem?_drop, same, List.getElem?_append_left (by rw [even]; exact inside)]

end Rows

namespace Sound

def interleaved (s : Sound) : List Float32 :=
  (List.range s.frames).flatMap fun f => s.channels.map (·.getD f 0)

def laidOut (channels frames : Nat) (samples : List Float32) : Sound :=
  ⟨frames, (List.range channels).map fun c => (List.range frames).map fun f =>
    samples.getD (f * channels + c) 0⟩

theorem takeFrameExact {channels : List (List Float32)} (full : ∀ c ∈ channels, c ≠ [])
    (taken : List Float32) :
    takeFrame channels taken = .ok ((channels.map (·.headD 0)).reverse ++ taken) := by
  induction channels generalizing taken with
  | nil => rfl
  | cons c rest ih =>
    cases c with
    | nil => exact absurd rfl (full [] List.mem_cons_self)
    | cons sample tail =>
      rw [takeFrame, ih fun c member => full c (List.mem_cons_of_mem _ member)]
      simp

theorem interleaveFromExact {frames : Nat} {channels : List (List Float32)}
    (uniform : ∀ c ∈ channels, c.length = frames) (taken : List Float32) :
    interleaveFrom frames channels taken =
      .ok (taken.reverse ++ (List.range frames).flatMap fun f => channels.map (·.getD f 0)) := by
  induction frames generalizing channels taken with
  | zero => simp [interleaveFrom]
  | succ frames ih =>
    have full : ∀ c ∈ channels, c ≠ [] := by
      intro c member same
      subst same
      simpa using uniform [] member
    have shorter : ∀ c ∈ channels.map List.tail, c.length = frames := by
      intro c member
      obtain ⟨longer, source, rfl⟩ := List.mem_map.mp member
      simp [uniform longer source]
    have firsts : channels.map (·.headD 0) = channels.map (·.getD 0 0) :=
      List.map_congr_left fun c _ => by cases c <;> rfl
    have others (f : Nat) : (channels.map List.tail).map (·.getD f 0) =
        channels.map (·.getD (f + 1) 0) := by
      rw [List.map_map]
      exact List.map_congr_left fun c _ => by cases c <;> simp
    simp only [interleaveFrom, takeFrameExact full, bind, Except.bind, ih shorter, others, firsts]
    simp [List.range_succ_eq_map, List.flatMap_map, List.append_assoc]

theorem interleaveExact {s : Sound} (uniform : s.Uniform) : s.interleave = .ok s.interleaved := by
  obtain ⟨frames, channels⟩ := s
  cases channels with
  | nil => simp [interleave, interleaved]
  | cons c rest => simpa [interleave, interleaved] using interleaveFromExact uniform []

theorem interleavedLength (s : Sound) :
    s.interleaved.length = s.frames * s.channels.length :=
  rowsLength (fun _ => List.length_map _) _

theorem everySkips (step : Nat) {front : List Float32} {skip : Nat} (within : front.length ≤ skip)
    (rest taken : List Float32) :
    every step skip (front ++ rest) taken = every step (skip - front.length) rest taken := by
  induction front generalizing skip with
  | nil => rfl
  | cons sample front ih =>
    cases skip with
    | zero => simp at within
    | succ skip =>
      simpa [every] using ih (by simpa using within)

theorem everyBlock {step c : Nat} (low : c < step) {block : List Float32}
    (size : block.length = step) (rest taken : List Float32) :
    every step c (block ++ rest) taken = every step c rest (block.getD c 0 :: taken) := by
  have inside : c < block.length := by omega
  have parts : block ++ rest =
      block.take c ++ (block.getD c 0 :: (block.drop (c + 1) ++ rest)) := by
    rw [← List.cons_append, List.getD_eq_getElem _ _ inside, List.getElem_cons_drop,
      ← List.append_assoc, List.take_append_drop]
  have before : (block.take c).length = c := by simp; omega
  have left : step - 1 - (block.drop (c + 1)).length = c := by simp; omega
  rw [parts, everySkips step (Nat.le_of_eq before), before, Nat.sub_self, every,
    everySkips step (by simp; omega), left]

theorem firstFrame {width c : Nat} (low : c < width) (samples : List Float32) :
    (samples.take width).getD c 0 = samples.getD c 0 := by
  simp [List.getD_eq_getElem?_getD, List.getElem?_take_of_lt low]

theorem laterFrame (width c f : Nat) (samples : List Float32) :
    (samples.drop width).getD (f * width + c) 0 = samples.getD ((f + 1) * width + c) 0 := by
  rw [List.getD_eq_getElem?_getD, List.getElem?_drop, ← List.getD_eq_getElem?_getD]
  congr 1
  rw [Nat.succ_mul]
  omega

theorem everyExact {step c : Nat} (low : c < step) {frames : Nat} {samples : List Float32}
    (size : samples.length = frames * step) (taken : List Float32) :
    every step c samples taken =
      taken.reverse ++ (List.range frames).map fun f => samples.getD (f * step + c) 0 := by
  induction frames generalizing samples taken with
  | zero =>
    obtain rfl : samples = [] := List.length_eq_zero_iff.mp (by simpa using size)
    simp [every]
  | succ frames ih =>
    have long : step ≤ samples.length := by rw [size, Nat.succ_mul]; omega
    have block : (samples.take step).length = step := by simp; omega
    have rest : (samples.drop step).length = frames * step := by
      rw [List.length_drop, size, Nat.succ_mul]; omega
    rw [← List.take_append_drop step samples, everyBlock low block, ih rest,
      List.take_append_drop]
    simp only [firstFrame low, laterFrame]
    simp [List.range_succ_eq_map, Function.comp_def]

theorem deinterleaveExact {channels frames : Nat} {samples : List Float32} (some : 0 < channels)
    (size : samples.length = channels * frames) :
    deinterleave channels frames samples = .ok (laidOut channels frames samples) := by
  have sound : ¬ (samples.length ≠ channels * frames ∨ channels = 0) := by omega
  have channel : ∀ c ∈ List.range channels, every channels c samples [] =
      (List.range frames).map fun f => samples.getD (f * channels + c) 0 := by
    intro c member
    simpa using everyExact (List.mem_range.mp member) (by rw [size, Nat.mul_comm]) []
  simp only [deinterleave, if_neg sound, laidOut]
  exact congrArg (fun data => Except.ok (Sound.mk frames data)) (List.map_congr_left channel)

theorem laidOutInterleaved {s : Sound} (uniform : s.Uniform) :
    laidOut s.channels.length s.frames s.interleaved = s := by
  obtain ⟨frames, channels⟩ := s
  have sample (f c : Nat) (low : f < frames) (inside : c < channels.length) :
      (interleaved ⟨frames, channels⟩).getD (f * channels.length + c) 0 =
        channels[c].getD f 0 := by
    rw [interleaved, List.getD_eq_getElem?_getD, rowsAt (by simp) low inside]
    simp [List.getD_eq_getElem?_getD, inside]
  simp only [laidOut, Sound.mk.injEq, true_and]
  refine List.ext_getElem (by simp) fun c left right => ?_
  have length : channels[c].length = frames := uniform _ (List.getElem_mem right)
  refine List.ext_getElem (by simp [length]) fun f low high => ?_
  simp only [List.getElem_map, List.getElem_range]
  rw [sample f c (by simpa using low) right, List.getD_eq_getElem]

end Sound

namespace Mix

@[simp] theorem addScaledLength (gain : Float32) (total samples : List Float32) :
    (addScaled gain total samples).length = total.length := by
  simp only [addScaled, List.length_append, List.length_zipWith, List.length_drop]
  omega

theorem outputChannelLength (m : Mix) (s : Sound) (output : Nat) :
    (m.outputChannel s output).length = s.frames := by
  unfold outputChannel
  refine List.foldlRecOn (motive := fun total : List Float32 => total.length = s.frames) _ _
    List.length_replicate fun total length entry _ => ?_
  dsimp only
  split
  · exact length
  · rw [addScaledLength, length]

theorem applyUniform (m : Mix) (s : Sound) : (m.apply s).Uniform := by
  intro c member
  obtain ⟨output, _, rfl⟩ := List.mem_map.mp member
  exact outputChannelLength m s output

@[simp] theorem applyChannels (m : Mix) (s : Sound) : (m.apply s).channels.length = m.outputs := by
  simp [apply]

@[simp] theorem applyFrames (m : Mix) (s : Sound) : (m.apply s).frames = s.frames := rfl

end Mix
end Telecine
