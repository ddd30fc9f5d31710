import Telecine.Clock.Time
import Telecine.Text.Path

/-! Decoded pictures: rows of three bytes a pixel, the eye they are for and when they are shown. -/
namespace Telecine

inductive Eye
  | both
  | left
  | right
  deriving DecidableEq, Repr

def Eye.name : Eye → String
  | .both => "both"
  | .left => "left"
  | .right => "right"

def Eye.suffix : Eye → String
  | .both => ""
  | .left => "_L"
  | .right => "_R"

def eyePath (base : Path) (eye : Eye) (extension : String) : Path :=
  ⟨base.text ++ eye.suffix ++ extension⟩

structure Colour where
  red : UInt8
  green : UInt8
  blue : UInt8
  deriving DecidableEq, Repr

def Colour.bytes (c : Colour) : ByteArray := ⟨#[c.red, c.green, c.blue]⟩

def Colour.halved (c : Colour) : Colour := ⟨c.red / 2, c.green / 2, c.blue / 2⟩

structure Image where
  width : Nat
  height : Nat
  pixels : ByteArray

instance : DecidableEq Image
  | ⟨w, h, p⟩, ⟨w', h', p'⟩ =>
    haveI := ByteArray.instDecidableEq p p'
    decidable_of_iff (w = w' ∧ h = h' ∧ p = p') (by simp)

def repeatBytes (unit : ByteArray) (count : Nat) : ByteArray :=
  if count = 0 then .empty else
    let half := repeatBytes unit (count / 2)
    if count % 2 = 0 then half ++ half else half ++ half ++ unit
termination_by count

namespace Image

def byteCount (width height : Nat) : Checked Nat := do
  word64 ((← word64 (width * height)) * 3)

theorem byteCountExact {width height : Nat} (fits : FitsWord64 (width * height * 3)) :
    byteCount width height = .ok (width * height * 3) := by
  have less : FitsWord64 (width * height) :=
    Nat.lt_of_le_of_lt (Nat.le_mul_of_pos_right _ (by decide)) fits
  simp only [byteCount, word64_eq_ok_iff.mpr ⟨less, rfl⟩, bind, Except.bind]
  exact word64_eq_ok_iff.mpr ⟨fits, rfl⟩

def plain (width height : Nat) (colour : Colour) : Checked Image := do
  reserve (← byteCount width height) 1
  return ⟨width, height, repeatBytes colour.bytes (width * height)⟩

def expectedSize (image : Image) : Checked Nat := byteCount image.width image.height

end Image

structure Picture where
  image : Image
  eye : Eye
  time : Time
  damaged : Bool
  deriving DecidableEq

end Telecine
