import Telecine.Proofs.Export.Scratch
import Telecine.Proofs.Host.Writes
import Telecine.Proofs.Media.Interleaving

/-! The spools of an output hold what it accepted: the pixels of its pictures in one, its sound in the
other, each in the order of the calls, and the encoding tool is asked once, over exactly that. -/
namespace Telecine

def littleEndian (sample : Float32) : List UInt8 :=
  [0, 8, 16, 24].map fun (shift : UInt32) => (sample.toBits >>> shift).toUInt8

namespace Delivery

def isPicture : Delivery → Bool
  | .picture _ => true
  | _ => false

def isFinish : Delivery → Bool
  | .finish => true
  | _ => false

def pixelBytes : Delivery → List UInt8
  | .picture p => listed p.image.pixels
  | _ => []

def soundBytes : Delivery → List UInt8
  | .sound s => s.interleaved.flatMap littleEndian
  | _ => []

def Even : Delivery → Prop
  | .sound s => s.Uniform
  | _ => True

end Delivery

namespace StreamFormat

def takes (f : StreamFormat) : Delivery → Bool
  | .picture picture => picture.image.width = f.width ∧ picture.image.height = f.height ∧
      picture.image.pixels.size = f.width * f.height * 3
  | .sound sound => sound.channels.length = f.soundChannels
  | .finish => false

theorem takesSize {f : StreamFormat} {taken : List Delivery} (all : ∀ d ∈ taken, f.takes d = true) :
    (taken.flatMap Delivery.pixelBytes).length =
      taken.countP Delivery.isPicture * (f.width * f.height * 3) := by
  induction taken with
  | nil => simp
  | cons delivery rest ih =>
    obtain ⟨first, later⟩ := List.forall_mem_cons.mp all
    rw [List.flatMap_cons, List.length_append, ih later]
    cases delivery with
    | picture picture =>
      have size : (Delivery.pixelBytes (.picture picture)).length = f.width * f.height * 3 := by
        simp only [takes, decide_eq_true_eq] at first
        simpa [Delivery.pixelBytes, listed] using first.2.2
      rw [size, List.countP_cons_of_pos rfl, Nat.succ_mul, Nat.add_comm]
    | sound sound => simp [Delivery.pixelBytes, Delivery.isPicture]
    | finish => cases first

end StreamFormat

namespace Writer
open Machine Disk

structure Holds (w : Writer OpenFile) (d : Disk) (number : Nat) (bytes : List UInt8) : Prop where
  file : w.file = .file number (d.bytesOf number).size
  bytes : listed (d.bytesOf number) ++ listed w.pending = bytes

section Holding
variable {w : Writer OpenFile} {now after : Machine} {number other : Nat} {bytes : List UInt8}

theorem holdsElsewhere (holds : w.Holds now.disk number bytes) (wrote : Wrote other now after)
    (apart : number ≠ other) : w.Holds after.disk number bytes := by
  have same : after.disk.bytesOf number = now.disk.bytesOf number :=
    congrArg joined (wrote.others number apart)
  exact ⟨same ▸ holds.file, same ▸ holds.bytes⟩

theorem writeEnds (holds : w.Holds now.disk number bytes) (new : ByteArray) :
    ∃ after file, (Host.write w.file new : StateM Machine _) now = (.ok file, after) ∧
      Wrote number now after ∧ file = .file number (after.disk.bytesOf number).size ∧
      listed (after.disk.bytesOf number) = listed (now.disk.bytesOf number) ++ listed new := by
  refine ⟨_, _, @onDiskWorked _ (·.write w.file new) now _ _ (holds.file ▸ writeEnd new),
    .pieces number now _, ?_, ?_⟩
  · rw [bytesOfEnd, ByteArray.size_append]
  · rw [bytesOfEnd, listedAppend]

theorem drainHolds (holds : w.Holds now.disk number bytes) : ∃ emptied after,
    (w.drain : StateM Machine _) now = ((.ok (), emptied), after) ∧ Wrote number now after ∧
      emptied.Holds after.disk number bytes ∧ emptied.pending = .empty := by
  unfold drain
  by_cases none : w.pending.size = 0
  · rw [if_pos none]
    exact ⟨w, now, rfl, .refl number now, holds, ByteArray.size_eq_zero_iff.mp none⟩
  · obtain ⟨after, file, written, wrote, ends, all⟩ := writeEnds holds w.pending
    refine ⟨⟨file, .empty⟩, after, ?_, wrote, ⟨ends, ?_⟩, rfl⟩
    · rw [if_neg none, bindRuns, written]
      rfl
    · rw [all, holds.bytes, listedEmpty, List.append_nil]

theorem putHolds (holds : w.Holds now.disk number bytes) (new : ByteArray)
    (room : new.size < capacity ∨ w.pending = .empty) : ∃ more after,
    (w.put new : StateM Machine _) now = ((.ok (), more), after) ∧ Wrote number now after ∧
      more.Holds after.disk number (bytes ++ listed new) := by
  unfold put
  -- Past the buffer there is a way only where nothing is pending: bytes stay in the order they came in.
  by_cases small : new.size < capacity
  · rw [if_pos small]
    refine ⟨_, now, rfl, .refl number now, holds.file, ?_⟩
    rw [listedAppend, ← List.append_assoc, holds.bytes]
  · obtain ⟨after, file, written, wrote, ends, all⟩ := writeEnds holds new
    have empty := room.resolve_left small
    refine ⟨⟨file, w.pending⟩, after, ?_, wrote, ends, ?_⟩
    · rw [if_neg small, bindRuns, written]
      rfl
    · have held := holds.bytes
      rw [empty, listedEmpty, List.append_nil] at held ⊢
      rw [all, held]

theorem appendHolds (holds : w.Holds now.disk number bytes) (new : ByteArray) : ∃ more after,
    (w.append new : StateM Machine _) now = ((.ok (), more), after) ∧ Wrote number now after ∧
      more.Holds after.disk number (bytes ++ listed new) := by
  unfold append
  by_cases room : w.pending.size + new.size ≤ capacity
  · rw [if_pos room]
    refine putHolds holds new ?_
    rcases Nat.lt_or_ge new.size capacity with small | large
    · exact .inl small
    · exact .inr (ByteArray.size_eq_zero_iff.mp (by omega))
  · obtain ⟨emptied, middle, drained, wrote, held, empty⟩ := drainHolds holds
    obtain ⟨more, after, put, wrote', held'⟩ := putHolds held new (.inr empty)
    refine ⟨more, after, ?_, wrote.trans wrote', held'⟩
    rw [if_neg room, bindRuns, drained]
    exact put

theorem closeHolds (holds : w.Holds now.disk number bytes) : ∃ after,
    (w.close : StateM Machine _) now = (.ok (), after) ∧ Wrote number now after ∧
      listed (after.disk.bytesOf number) = bytes := by
  obtain ⟨emptied, after, drained, wrote, held, empty⟩ := drainHolds holds
  refine ⟨after, ?_, wrote, ?_⟩
  · rw [close, bindRuns, drained]
    simp only [held.file]
    rfl
  · have all := held.bytes
    rwa [empty, listedEmpty, List.append_nil] at all

end Holding
end Writer

namespace Spool
open Machine Disk

theorem sampleBytesListed (samples : List Float32) :
    listed (sampleBytes samples) = samples.flatMap littleEndian := by
  have pushed (bytes : ByteArray) : listed (samples.foldl pushBits bytes) =
      listed bytes ++ samples.flatMap littleEndian := by
    induction samples generalizing bytes with
    | nil => simp
    | cons sample rest ih =>
      rw [List.foldl_cons, ih, List.flatMap_cons, ← List.append_assoc]
      congr 1
      simp [listed, pushBits, littleEndian]
  exact (pushed .empty).trans (by simp)

section Accepting
variable {s : Spool OpenFile} {image : Image} {picture : Picture}
  (fits : FitsWord64 (s.streams.width * s.streams.height * 3))
include fits

theorem acceptSized (width : image.width = s.streams.width) (height : image.height = s.streams.height) :
    s.accept image = if image.pixels.size ≠ s.streams.width * s.streams.height * 3 then
      .error (.failed (.encode ("picture buffer holds " ++ toString image.pixels.size ++
        " bytes, expected " ++ toString (s.streams.width * s.streams.height * 3)))) else .ok () := by
  have same : ¬(image.width ≠ s.streams.width ∨ image.height ≠ s.streams.height) :=
    not_or.mpr ⟨not_not.mpr width, not_not.mpr height⟩
  have expected : image.expectedSize = .ok (s.streams.width * s.streams.height * 3) := by
    rw [Image.expectedSize, width, height, Image.byteCountExact fits]
  simp only [accept, if_neg same, expected, Halt.ofChecked_ok, bind, Except.bind]
  rfl

theorem acceptTaken (takes : s.streams.takes (.picture picture) = true) :
    s.accept picture.image = .ok () := by
  simp only [StreamFormat.takes, decide_eq_true_eq] at takes
  rw [acceptSized fits takes.1 takes.2.1, if_neg (not_not.mpr takes.2.2)]

theorem acceptRefused (refuses : s.streams.takes (.picture picture) = false) :
    ∃ message, s.accept picture.image = .error (.failed (.encode message)) := by
  simp only [StreamFormat.takes, decide_eq_false_iff_not] at refuses
  by_cases same : picture.image.width = s.streams.width ∧ picture.image.height = s.streams.height
  · rw [acceptSized fits same.1 same.2, if_pos fun size => refuses ⟨same.1, same.2, size⟩]
    exact ⟨_, rfl⟩
  · unfold accept
    rw [if_pos (not_and_or.mp same)]
    exact ⟨_, rfl⟩

end Accepting

structure Spooling (streams : StreamFormat) (a b : Nat) (taken : List Delivery) (s : Spool OpenFile)
    (now : Machine) : Prop where
  streams : s.streams = streams
  pictures : ∃ w, s.pictures = some w ∧ w.Holds now.disk a (taken.flatMap Delivery.pixelBytes)
  sounds : ∃ w, s.sounds = some w ∧ w.Holds now.disk b (taken.flatMap Delivery.soundBytes)
  count : s.count = taken.countP Delivery.isPicture
  pictureName : Names now.disk s.pictureFile a
  soundName : Names now.disk s.soundFile b

structure Onward (first s : Spool OpenFile) (before now : Machine) : Prop where
  arguments : s.arguments = first.arguments
  pictureFile : s.pictureFile = first.pictureFile
  soundFile : s.soundFile = first.soundFile
  output : s.output = first.output
  tool : now.tool = before.tool
  invocations : now.invocations = before.invocations

namespace Onward
variable {first second third : Spool OpenFile} {before middle now : Machine}

theorem refl (s : Spool OpenFile) (now : Machine) : Onward s s now now :=
  ⟨rfl, rfl, rfl, rfl, rfl, rfl⟩

theorem trans (once : Onward first second before middle) (more : Onward second third middle now) :
    Onward first third before now :=
  ⟨more.arguments.trans once.arguments, more.pictureFile.trans once.pictureFile,
    more.soundFile.trans once.soundFile, more.output.trans once.output, more.tool.trans once.tool,
    more.invocations.trans once.invocations⟩

end Onward

section Taking
variable {streams : StreamFormat} {a b : Nat} {taken : List Delivery} {s : Spool OpenFile}
  {now : Machine} {picture : Picture} {sound : Sound}

theorem pictureTaken (spooling : Spooling streams a b taken s now) (apart : a ≠ b)
    (fits : FitsWord64 (streams.width * streams.height * 3))
    (takes : streams.takes (.picture picture) = true) : ∃ s' after,
    (s.takePicture picture : StateM Machine _) now = ((.ok (), s'), after) ∧
      Spooling streams a b (taken ++ [.picture picture]) s' after ∧ Onward s s' now after := by
  obtain ⟨streaming, ⟨w, picturing, pictures⟩, ⟨v, sounding, sounds⟩, count, pictureName,
    soundName⟩ := spooling
  obtain ⟨more, after, appended, wrote, held⟩ := Writer.appendHolds pictures picture.image.pixels
  refine ⟨{ s with pictures := some more, count := s.count + 1 }, after, ?_, ⟨streaming, ⟨more, rfl, ?_⟩,
    ⟨v, sounding, ?_⟩, ?_, wrote.names pictureName, wrote.names soundName⟩,
    ⟨rfl, rfl, rfl, rfl, wrote.tool, wrote.invocations⟩⟩
  · rw [takePicture, acceptTaken (streaming ▸ fits) (streaming ▸ takes), picturing]
    show (w.append picture.image.pixels >>= _ : StateM Machine _) now = _
    rw [bindRuns, appended]
    rfl
  · simpa [Delivery.pixelBytes] using held
  · simpa [Delivery.soundBytes] using Writer.holdsElsewhere sounds wrote apart.symm
  · simp [count, Delivery.isPicture]

theorem pictureRefused (streaming : s.streams = streams)
    (fits : FitsWord64 (streams.width * streams.height * 3))
    (refuses : streams.takes (.picture picture) = false) : ∃ message,
    (s.takePicture picture : StateM Machine _) now = ((.error (.failed (.encode message)), s), now) := by
  obtain ⟨message, refused⟩ := acceptRefused (streaming ▸ fits) (streaming ▸ refuses)
  refine ⟨message, ?_⟩
  rw [takePicture, refused]
  rfl

theorem soundTaken (spooling : Spooling streams a b taken s now) (apart : a ≠ b)
    (uniform : sound.Uniform) (takes : streams.takes (.sound sound) = true) : ∃ s' after,
    (s.takeSound sound : StateM Machine _) now = ((.ok (), s'), after) ∧
      Spooling streams a b (taken ++ [.sound sound]) s' after ∧ Onward s s' now after := by
  obtain ⟨streaming, ⟨w, picturing, pictures⟩, ⟨v, sounding, sounds⟩, count, pictureName,
    soundName⟩ := spooling
  obtain ⟨more, after, appended, wrote, held⟩ :=
    Writer.appendHolds sounds (sampleBytes sound.interleaved)
  have channels : ¬sound.channels.length ≠ s.streams.soundChannels := by
    simpa [StreamFormat.takes, streaming] using takes
  refine ⟨{ s with sounds := some more }, after, ?_, ⟨streaming, ⟨w, picturing, ?_⟩,
    ⟨more, rfl, ?_⟩, ?_, wrote.names pictureName, wrote.names soundName⟩,
    ⟨rfl, rfl, rfl, rfl, wrote.tool, wrote.invocations⟩⟩
  · rw [takeSound, if_neg channels, sounding, Sound.interleaveExact uniform]
    show (v.append (sampleBytes sound.interleaved) >>= _ : StateM Machine _) now = _
    rw [bindRuns, appended]
    rfl
  · simpa [Delivery.pixelBytes] using Writer.holdsElsewhere pictures wrote apart
  · simpa [Delivery.soundBytes, sampleBytesListed] using held
  · simp [count, Delivery.isPicture]

theorem soundRefused (streaming : s.streams = streams) (refuses : streams.takes (.sound sound) = false) :
    ∃ message, (s.takeSound sound : StateM Machine _) now =
      ((.error (.failed (.encode message)), s), now) := by
  have channels : sound.channels.length ≠ s.streams.soundChannels := by
    simpa [StreamFormat.takes, streaming] using refuses
  rw [takeSound, if_pos channels]
  exact ⟨_, rfl⟩

end Taking
end Spool
end Telecine
