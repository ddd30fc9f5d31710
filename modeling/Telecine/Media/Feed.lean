import Telecine.Failure
import Telecine.Media.Picture
import Telecine.Media.Sound

/-! Decoded content in the order it is shown: a finite list that is worked out as it is read, and how
it is over. -/
namespace Telecine

inductive Item
  | picture (picture : Picture)
  | sound (sound : Sound)

inductive Feed
  | ends
  | fails (failure : Failure)
  | crashes
  | gives (item : Item) (rest : Unit → Feed)

namespace Feed

def items : Feed → List Item
  | .gives item rest => item :: (rest ()).items
  | _ => []

def ending : Feed → Feed
  | .gives _ rest => (rest ()).ending
  | last => last

end Feed
end Telecine
