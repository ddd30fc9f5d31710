import Telecine.CommandLine.Arguments
import Telecine.Proofs.Clock.Frames

/-! What is known of a command that was read from the program's arguments. -/
namespace Telecine.CommandLine

/-- Each argument in the word that it is read into. -/
structure NewFilm.Typed (a : NewFilm) : Prop where
  picture : a.pictureRate < 4294967296
  seconds : a.seconds < 4294967296
  channels : a.soundChannels < 18446744073709551616
  width : a.width < 4294967296
  height : a.height < 4294967296

section Typed
variable {a : NewFilm} {given : Given} {rest : List String} {option text : String} {limit default value : Nat}
  {command : Command}

theorem smallFits (read : small? text = some value) : value < 4294967296 := by
  obtain ⟨whole, _, kept⟩ := Option.bind_eq_some_iff.mp read
  split at kept
  · cases kept
    omega
  · cases kept

theorem largeFits (read : large? text = some value) : value < 18446744073709551616 := by
  unfold large? Decimal.nat? at read
  simp only [] at read
  split at read <;>
  · obtain ⟨whole, _, kept⟩ := Option.bind_eq_some_iff.mp read
    split at kept
    · cases kept
      assumption
    · cases kept

theorem optionFits {reader : String → Option Nat}
    (fits : ∀ {text value}, reader text = some value → value < limit) (usual : default < limit) :
    (readOption given option reader).getD default < limit := by
  cases read : readOption given option reader with
  | none => exact usual
  | some value =>
    obtain ⟨text, _, same⟩ := Option.bind_eq_some_iff.mp read
    exact fits same

def Command.Typed : Command → Prop
  | .init a => a.Typed
  | _ => True

theorem initTyped (done : readInit rest = .ok (given, command)) : command.Typed := by
  obtain ⟨_, _, done⟩ := checkedBound done
  obtain ⟨_, _, done⟩ := checkedBound done
  cases done
  exact ⟨optionFits smallFits (by decide), optionFits smallFits (by decide),
    optionFits largeFits (by decide), optionFits smallFits (by decide), optionFits smallFits (by decide)⟩

theorem infoTyped (done : readInfo rest = .ok (given, command)) : command.Typed := by
  obtain ⟨_, _, done⟩ := checkedBound done
  obtain ⟨_, _, done⟩ := checkedBound done
  cases done
  trivial

theorem exportTyped (done : readExport rest = .ok (given, command)) : command.Typed := by
  obtain ⟨_, _, done⟩ := checkedBound done
  obtain ⟨_, _, done⟩ := checkedBound done
  cases done
  trivial

theorem checkTyped (done : readCheck rest = .ok (given, command)) : command.Typed := by
  obtain ⟨_, _, done⟩ := checkedBound done
  cases done
  trivial

theorem readTyped {arguments : List String} {parsed : Arguments} (done : read arguments = .ok parsed) :
    parsed.command.Typed := by
  obtain ⟨⟨before, rest⟩, _, done⟩ := checkedBound done
  simp only [] at done
  split at done
  · obtain ⟨_, found, done⟩ := checkedBound done
    cases done
    exact initTyped found
  · obtain ⟨_, found, done⟩ := checkedBound done
    cases done
    exact infoTyped found
  · obtain ⟨_, found, done⟩ := checkedBound done
    cases done
    exact exportTyped found
  · obtain ⟨_, found, done⟩ := checkedBound done
    cases done
    exact checkTyped found
  · cases done
  · cases done

end Typed

end Telecine.CommandLine
