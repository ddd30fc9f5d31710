import Mathlib.Data.List.Basic
import Telecine.Proofs.Media.Interleaving
import Telecine.Readahead

/-! What a decoder can have handed over of a feed. `lead n` is the longest beginning with at most `n`
pictures, so it stops before the next picture and keeps the sound in front of it. -/
namespace Telecine
namespace Feed

def outcome (f : Feed) : Option Outage := match f.ending with
  | .ends => some .finished
  | .fails _ => some .died
  | _ => none

def failure (f : Feed) : Option Failure := match f.ending with
  | .fails failure => some failure
  | _ => none

end Feed

namespace Lookahead

def pictures (items : List Item) : List Picture :=
  items.filterMap fun
    | .picture picture => some picture
    | .sound _ => none

def samples (mix : Mix) (items : List Item) : List Float32 :=
  items.flatMap fun
    | .picture _ => []
    | .sound sound => (mix.apply sound).interleaved

def lead : Nat → List Item → List Item
  | _, [] => []
  | n, .sound sound :: rest => .sound sound :: lead n rest
  | 0, .picture _ :: _ => []
  | n + 1, .picture picture :: rest => .picture picture :: lead n rest

section Parts
variable (mix : Mix) (items more : List Item) (picture : Picture) (sound : Sound)

@[simp] theorem picturesNil : pictures [] = [] := rfl

@[simp] theorem picturesPicture : pictures (.picture picture :: items) = picture :: pictures items := rfl

@[simp] theorem picturesSound : pictures (.sound sound :: items) = pictures items := rfl

@[simp] theorem picturesAppend : pictures (items ++ more) = pictures items ++ pictures more :=
  List.filterMap_append ..

@[simp] theorem samplesNil : samples mix [] = [] := rfl

@[simp] theorem samplesPicture : samples mix (.picture picture :: items) = samples mix items := rfl

@[simp] theorem samplesSound :
    samples mix (.sound sound :: items) = (mix.apply sound).interleaved ++ samples mix items := rfl

@[simp] theorem samplesAppend : samples mix (items ++ more) = samples mix items ++ samples mix more :=
  List.flatMap_append ..

end Parts

@[simp] theorem blockSamples (mix : Mix) (sound : Sound) :
    Readahead.samples mix sound = (mix.apply sound).interleaved := by
  simp [Readahead.samples, Sound.interleaveExact (mix.applyUniform sound)]

theorem picturesPrefix {handed items : List Item} (h : handed <+: items) :
    pictures handed <+: pictures items := by
  obtain ⟨rest, rfl⟩ := h
  exact ⟨pictures rest, (picturesAppend handed rest).symm⟩

theorem samplesPrefix (mix : Mix) {handed items : List Item} (h : handed <+: items) :
    samples mix handed <+: samples mix items := by
  obtain ⟨rest, rfl⟩ := h
  exact ⟨samples mix rest, (samplesAppend mix handed rest).symm⟩

theorem leadPrefix (n : Nat) (items : List Item) : lead n items <+: items := by
  fun_induction lead n items with
  | case1 => exact List.prefix_rfl
  | case2 n sound rest ih => exact List.cons_prefix_cons.mpr ⟨rfl, ih⟩
  | case3 => exact List.nil_prefix
  | case4 n picture rest ih => exact List.cons_prefix_cons.mpr ⟨rfl, ih⟩

theorem leadPictures (n : Nat) (items : List Item) :
    pictures (lead n items) = (pictures items).take n := by
  fun_induction lead n items with
  | case1 => simp
  | case2 n sound rest ih => simpa using ih
  | case3 => simp
  | case4 n picture rest ih => simpa using ih

theorem prefixOfLead {handed items : List Item} {n : Nat} (h : handed <+: items)
    (few : (pictures handed).length ≤ n) : handed <+: lead n items := by
  fun_induction lead n items generalizing handed with
  | case1 => exact h
  | case2 n sound rest ih =>
    cases handed with
    | nil => exact List.nil_prefix
    | cons item handed =>
      obtain ⟨rfl, tail⟩ := List.cons_prefix_cons.mp h
      exact List.cons_prefix_cons.mpr ⟨rfl, ih tail (by simpa using few)⟩
  | case3 picture rest =>
    cases handed with
    | nil => exact List.nil_prefix
    | cons item handed =>
      obtain ⟨rfl, _⟩ := List.cons_prefix_cons.mp h
      simp at few
  | case4 n picture rest ih =>
    cases handed with
    | nil => exact List.nil_prefix
    | cons item handed =>
      obtain ⟨rfl, tail⟩ := List.cons_prefix_cons.mp h
      exact List.cons_prefix_cons.mpr ⟨rfl, ih tail (by simpa using few)⟩

theorem leadMono {n m : Nat} (h : n ≤ m) (items : List Item) : lead n items <+: lead m items :=
  prefixOfLead (leadPrefix n items) (by rw [leadPictures, List.length_take]; omega)

theorem leadAll {n : Nat} {items : List Item} (few : (pictures items).length ≤ n) :
    lead n items = items :=
  (leadPrefix n items).eq_of_length_le (prefixOfLead List.prefix_rfl few).length_le

theorem leadStops (handed : List Item) (picture : Picture) (rest : List Item) :
    lead (pictures handed).length (handed ++ .picture picture :: rest) = handed := by
  induction handed with
  | nil => rfl
  | cons item handed ih => cases item <;> simpa [lead] using ih

end Lookahead
end Telecine
