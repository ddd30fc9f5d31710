import Telecine.Proofs.Transfer.Course

/-! The parts of a run: the room it makes for the sound of a tick, its ticks, the ends of the files, and
what it concludes. -/
namespace Telecine.Transfer
open Dialogue

def opening (t : Transfer) : Checked (Time × Nat) := do
  let duration ← t.plan.rates.pictureDuration
  let frames ← t.plan.rates.soundPerPicture
  reserve (t.plan.soundChannels * frames) Sound.sampleSize
  reserve t.plan.soundChannels Sound.channelSize
  return (duration, frames)

def conclude (t : Transfer) (count : Nat) : Act Summary := do
  change fun s => { s with finished := true }
  let putOff : Option Failure ← ask .trouble
  if let some failure := putOff then fail failure
  let status : Status ← ExceptT.lift Talk.look
  return ⟨count, t.sets.length, t.outputs, status.dropped, status.damaged, status.underruns⟩

def proceed (t : Transfer) (duration : Time) (frames limit : Nat) : Act Summary := do
  let count ← t.ticks duration frames limit 0 Time.zero 0
  finishAll t.sets
  t.conclude count

def pass (t : Transfer) (duration : Time) (soundFrames reel : Nat) (time : Time) :
    Act (Nat × Time) := do
  let reel ← known (t.reelAt reel time)
  let set ← known (t.setOf reel)
  passPictures set (picturesPerTick t.plan)
  let next ← checked (time.add duration)
  change fun s => { s with time := next }
  let status : Status ← ExceptT.lift Talk.look
  let _ ← ask (.progress status.progress)
  let _ ← ask .nudge
  passSound t.plan soundFrames set
  return (reel, next)

section Parts
variable {α β : Type} {t : Transfer} {limit : Nat} {before after : Status} {said : List Said}

theorem checkedBind {value : Checked β} {next : β → Checked α} :
    (checked (value >>= next) : Act α) = checked value >>= fun early => checked (next early) := by
  cases value <;> rfl

theorem checkedAssoc {γ : Type} {value : Checked β} {next : β → Act γ} {last : γ → Act α} :
    (checked value >>= next) >>= last = checked value >>= fun early => next early >>= last := by
  cases value <;> rfl

theorem playParts (fresh : t.started = false) : t.play limit = (do
    let (duration, frames) ← checked t.opening
    let _ ← ask (.stage "Encoding")
    t.proceed duration frames limit) := by
  unfold play opening proceed
  simp only [fresh, Bool.false_eq_true, ↓reduceIte, checkedBind, checkedAssoc]
  rfl

theorem playCrowded (fresh : t.started = false) {fault : Fault} (opens : t.opening = .error fault) :
    t.play limit = throw (.fault fault) := by
  rw [playParts fresh, opens]
  rfl

theorem playBegun (fresh : t.started = false) {duration : Time} {frames : Nat}
    (opens : t.opening = .ok (duration, frames)) :
    t.play limit = ask (.stage "Encoding") >>= fun _ => t.proceed duration frames limit := by
  rw [playParts fresh, opens]
  rfl

theorem tickParts {duration time : Time} {frames reel : Nat} :
    t.tick duration frames reel time = (do
      let stop : Bool ← ask .interrupted
      if stop then fail .cancelled else t.pass duration frames reel time) := by
  funext shown
  refine congrArg (Dialogue.ask shown Request.interrupted) ?_
  funext stop
  cases stop <;> rfl

theorem openingExact (some : t.plan.rates.picture ≠ 0) {duration : Time} {frames : Nat}
    (opens : t.opening = .ok (duration, frames)) :
    duration = ⟨t.plan.rates.pictureTicks⟩ ∧ t.plan.rates.soundPerPicture = .ok frames := by
  unfold opening at opens
  rw [FrameRates.pictureDurationExact some] at opens
  cases sound : t.plan.rates.soundPerPicture with
  | error fault => simp [sound, bind, Except.bind] at opens
  | ok frames' =>
    simp only [sound, bind, Except.bind] at opens
    split at opens
    · cases opens
    · split at opens
      · cases opens
      · cases opens
        exact ⟨rfl, rfl⟩

theorem goesConclude {count : Nat} {result : Except Halt Summary} :
    Goes (t.conclude count) before said result after ↔ ∃ putOff : Option Failure,
      said = [⟨.trouble, putOff⟩] ∧ after = { before with finished := true } ∧
      result = match putOff with
        | some failure => .error (.failed failure)
        | none => .ok ⟨count, t.sets.length, t.outputs, before.dropped, before.damaged,
          before.underruns⟩ := by
  unfold conclude
  rw [goesChangeOn, goesAskOn .trouble]
  constructor
  · intro h
    obtain ⟨putOff, rest, rfl, go⟩ := h
    cases putOff with
    | some failure =>
      obtain ⟨rfl, rfl, rfl⟩ := goesFailOn.mp go
      exact ⟨some failure, rfl, rfl, rfl⟩
    | none =>
      obtain ⟨rfl, rfl, rfl⟩ := saysDone.mp go
      exact ⟨none, rfl, rfl, rfl⟩
  · intro h
    obtain ⟨putOff, rfl, rfl, rfl⟩ := h
    cases putOff with
    | some failure => exact ⟨some failure, [], rfl, goesFailOn.mpr ⟨rfl, rfl, rfl⟩⟩
    | none => exact ⟨none, [], rfl, saysDone.mpr ⟨rfl, rfl, rfl⟩⟩

end Parts
end Telecine.Transfer
