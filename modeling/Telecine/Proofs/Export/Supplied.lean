import Mathlib.Data.List.Induction
import Telecine.Export.Production
import Telecine.Proofs.Lookahead.Timing
import Telecine.Proofs.Transfer.Says

/-! How a transfer is answered by a decoder that is always ahead, by an observer who never interrupts and
by files that take all they are given: each answer is a function of the feed and of what was said. -/
namespace Telecine
open Transfer Lookahead Dialogue

namespace Transfer

def Said.picture? : Said → Option Picture
  | ⟨.picture, .ok picture⟩ => some picture
  | _ => none

def shownIn (said : List Said) : List Picture := said.filterMap Said.picture?

@[simp] theorem shownAppend (said more : List Said) :
    shownIn (said ++ more) = shownIn said ++ shownIn more :=
  List.filterMap_append ..

end Transfer

section Answers
variable {ω : Type} {observer : Observer (StateM ω)} {nudge : StateM ω Unit}
  {deliver : Outlet → Delivery → StateM ω (Except Halt Unit)} {feed : Feed} {mix : Mix}
  {capacity : Nat} {outcome : Outage} {before said : List Said} {taken : Taken} {s last : Readahead}
  {world ended : ω}

end Answers

section Shown
variable {feed : Feed} {mix : Mix} {capacity : Nat} {outcome : Outage} {said before after : List Said}

end Shown
end Telecine
