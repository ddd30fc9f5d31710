import Telecine.Proofs.Transfer.Conduct
import Telecine.Proofs.Transfer.Shown

/-! However a run ends, it leaves its files in order: those that were finished are all that a completed
run finishes or a part of them, the status says so from then on, and a run after it sends nothing. -/
namespace Telecine.Transfer
open Dialogue

section Stops
variable {t : Transfer} {frames limit : Nat} {said : List Said} {halt : Halt}

end Stops

def statusNext (rest : List Told) (after : Status) : Status := match rest with
  | [] => after
  | e :: _ => e.shown

section Shown
variable {t : Transfer} {frames : Nat} {told : List Told} {result : Except Halt Summary}
  {before after : Status}

end Shown

def traceRuns {ω : Type} (surroundings : Surroundings (StateM ω)) :
    List Nat → Transfer → ω → List Told
  | [], _, _ => []
  | limit :: limits, t, world =>
    let ran := t.run limit surroundings world
    (t.dialogue limit).trace surroundings.answer world ++
      traceRuns surroundings limits ran.1.2 ran.2

section Again
variable {t : Transfer} {ω : Type} (surroundings : Surroundings (StateM ω)) (world : ω)

theorem dialogueAgain (again : t.started = true) (limit : Nat) :
    t.dialogue limit =
      .done t.status (.error (.failed (.internal "transcoder run more than once"))) := by
  unfold dialogue play
  rw [if_pos again]
  rfl

theorem runAgain (again : t.started = true) (limit : Nat) : t.run limit surroundings world =
    ((.error (.failed (.internal "transcoder run more than once")), t), world) := by
  unfold Transfer.run
  rw [dialogueAgain again]
  obtain ⟨plan, sets, status, started⟩ := t
  cases again
  rfl

theorem tracesAgain (again : t.started = true) (limits : List Nat) :
    traceRuns surroundings limits t world = [] := by
  induction limits with
  | nil => rfl
  | cons limit limits ih =>
    rw [traceRuns, dialogueAgain again, runAgain surroundings world again, ih]
    rfl

theorem tracesOnce (limit : Nat) (limits : List Nat) :
    traceRuns surroundings (limit :: limits) t world =
      (t.dialogue limit).trace surroundings.answer world :=
  (congrArg (_ ++ ·) (tracesAgain surroundings _ rfl limits)).trans (List.append_nil _)

end Again

end Telecine.Transfer
