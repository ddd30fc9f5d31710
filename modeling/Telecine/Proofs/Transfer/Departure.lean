import Telecine.Proofs.Transfer.Course

/-! How a run leaves its course at an answer. What it was to say and what it says are the same up to one
exchange; there the answer is another one, and the run halts. -/
namespace Telecine.Transfer
open Dialogue

inductive Leaves (stereoscopic : Bool) : (rest said : List Said) → Halt → Prop where
  | interrupted {rest} : Leaves stereoscopic (⟨.interrupted, false⟩ :: rest) [⟨.interrupted, true⟩]
      (.failed .cancelled)
  | unseen {rest picture outage} (alive : outage ≠ .died) :
      Leaves stereoscopic (⟨.picture, .ok picture⟩ :: rest) [⟨.picture, .error outage⟩]
        (.failed (.noPicture outage.code outage.message))
  | died {rest picture} (cause : Option Failure) : Leaves stereoscopic (⟨.picture, .ok picture⟩ :: rest)
      [⟨.picture, .error .died⟩, ⟨.trouble, cause⟩]
        (.failed (.noPicture Outage.died.code (match cause with
          | some failure => Outage.died.message ++ ": " ++ failure.message
          | none => Outage.died.message)))
  | refused {rest picture} {other : Picture} (stereo : stereoscopic = true) (both : other.eye = .both) :
      Leaves stereoscopic (⟨.picture, .ok picture⟩ :: rest) [⟨.picture, .ok other⟩]
        (.failed (.internal "3D encoder set asked for a non-stereo frame"))
  | unheard {rest frames size answer fault} :
      Leaves stereoscopic (⟨.sound frames size, .ok answer⟩ :: rest)
        [⟨.sound frames size, .error fault⟩] (.fault fault)
  | unfiled {rest outlet delivery halt} : Leaves stereoscopic (accepted (outlet, delivery) :: rest)
      [⟨.deliver outlet delivery, .error halt⟩] halt
  | putOff {rest failure} : Leaves stereoscopic (⟨.trouble, none⟩ :: rest)
      [⟨.trouble, some failure⟩] (.failed failure)

def Departs (stereoscopic : Bool) (whole said : List Said) (halt : Halt) : Prop :=
  ∃ common rest last, whole = common ++ rest ∧ said = common ++ last ∧
    Leaves stereoscopic rest last halt

def Willing (stereoscopic : Bool) : Said → Prop
  | ⟨.interrupted, stop⟩ => stop = false
  | ⟨.picture, answer⟩ => ∃ picture : Picture, answer = .ok picture ∧
      (stereoscopic = true → picture.eye ≠ .both)
  | ⟨.sound _ _, answer⟩ => ∃ heard, answer = .ok heard
  | ⟨.trouble, putOff⟩ => putOff = none
  | ⟨.deliver _ _, answer⟩ => answer = .ok ()
  | ⟨.stage _, _⟩ | ⟨.progress _, _⟩ | ⟨.nudge, _⟩ => True

section Compose
variable {stereoscopic : Bool} {whole rest said last more : List Said} {halt : Halt}

theorem leavesMore (leaves : Leaves stereoscopic rest last halt) :
    Leaves stereoscopic (rest ++ more) last halt := by
  cases leaves <;> constructor
  all_goals assumption

theorem departsHere (leaves : Leaves stereoscopic rest last halt) : Departs stereoscopic rest last halt :=
  ⟨[], rest, last, rfl, rfl, leaves⟩

theorem departsAfter (first : List Said) (departs : Departs stereoscopic whole said halt) :
    Departs stereoscopic (first ++ whole) (first ++ said) halt := by
  obtain ⟨common, rest, last, rfl, rfl, leaves⟩ := departs
  exact ⟨first ++ common, rest, last, (List.append_assoc ..).symm, (List.append_assoc ..).symm, leaves⟩

theorem departsMore (departs : Departs stereoscopic whole said halt) :
    Departs stereoscopic (whole ++ more) said halt := by
  obtain ⟨common, rest, last, rfl, rfl, leaves⟩ := departs
  exact ⟨common, rest ++ more, last, List.append_assoc .., rfl, leavesMore leaves⟩

theorem leavesUnwilling (leaves : Leaves stereoscopic rest last halt) :
    ∃ e ∈ last, ¬Willing stereoscopic e := by
  cases leaves <;> refine ⟨_, List.mem_cons_self, ?_⟩ <;> simp [Willing, *]

end Compose

section Acts
variable {α β : Type} {stereoscopic : Bool} {before after : Status} {said : List Said} {halt : Halt}
  {result : Except Halt α}

theorem goesKnownError {next : β → Act α} :
    Goes (known (.error halt) >>= next) before said result after ↔
      said = [] ∧ result = .error halt ∧ after = before := saysDone

theorem goesKnownOk {value : β} {next : β → Act α} :
    Goes (known (.ok value) >>= next) before said result after ↔
      Goes (next value) before said result after := Iff.rfl

theorem sendAllDeparts {sends : List (Outlet × Delivery)}
    (go : Goes (sendAll sends) before said (.error halt) after) :
    Departs stereoscopic (sends.map accepted) said halt := by
  induction sends generalizing said with
  | nil =>
    obtain ⟨_, failed, _⟩ := saysDone.mp go
    cases failed
  | cons send rest ih =>
    rw [sendAllCons, goesAskOn (.deliver send.1 send.2)] at go
    obtain ⟨reply, later, rfl, onward⟩ := go
    cases reply with
    | error e =>
      obtain ⟨rfl, same, _⟩ := goesKnownError.mp onward
      cases same
      exact departsHere .unfiled
    | ok done => exact departsAfter [accepted send] (ih onward)

theorem noPictureDeparts {outage : Outage} {picture : Picture} {rest : List Said}
    (go : Goes (noPicture outage : Act α) before said (.error halt) after) :
    Departs stereoscopic (⟨.picture, .ok picture⟩ :: rest) (⟨.picture, .error outage⟩ :: said)
      halt := by
  unfold noPicture at go
  split at go
  · rename_i dead
    subst dead
    obtain ⟨cause, later, rfl, onward⟩ := (goesAskOn .trouble).mp go
    obtain ⟨rfl, same, _⟩ := goesFail.mp onward
    cases same
    exact departsHere (.died cause)
  · rename_i alive
    obtain ⟨rfl, same, _⟩ := goesFail.mp go
    cases same
    exact departsHere (.unseen alive)

def blankPicture : Picture := ⟨⟨0, 0, .empty⟩, .left, Time.zero, false⟩

theorem blankTaken (set : FileSet) : set.Takes blankPicture := fun _ both => nomatch both

theorem pictureDeparts {set : FileSet} (same : set.isStereo = stereoscopic)
    (go : Goes (passPicture set) before said (.error halt) after) :
    ∃ picture, set.Takes picture ∧ Departs stereoscopic (pictureSaid set picture) said halt := by
  unfold passPicture at go
  obtain ⟨answer, rest, rfl, onward⟩ := (goesAskOn .picture).mp go
  cases answer with
  | error outage => exact ⟨blankPicture, blankTaken set, noPictureDeparts onward⟩
  | ok picture =>
    replace onward : Goes (sendPicture set picture) before rest (.error halt) after := onward
    unfold sendPicture at onward
    rw [goesChangeOn] at onward
    by_cases takes : set.Takes picture
    · refine ⟨picture, takes, departsAfter [⟨.picture, .ok picture⟩] ?_⟩
      simp only [dispatch, FileSet.dispatchTaken takes, goesPureOn] at onward
      cases sends : set.shown picture with
      | nil => simp [sends] at onward
      | cons send sends' =>
        rw [sends] at onward
        exact sendAllDeparts onward
    · refine ⟨blankPicture, blankTaken set, ?_⟩
      simp only [dispatch, FileSet.dispatchUntaken takes, goesFailOn] at onward
      obtain ⟨rfl, failed, _⟩ := onward
      cases failed
      obtain ⟨stereo, both⟩ : set.isStereo = true ∧ picture.eye = .both := by
        simpa [FileSet.Takes] using takes
      exact departsHere (.refused (same ▸ stereo) both)

theorem picturesDepart {set : FileSet} (even : set.isStereo = stereoscopic) {count : Nat}
    (go : Goes (passPictures set count) before said (.error halt) after) :
    ∃ pictures : List Picture, pictures.length = count ∧ (∀ p ∈ pictures, set.Takes p) ∧
      Departs stereoscopic (pictures.flatMap (pictureSaid set)) said halt := by
  induction count generalizing before said with
  | zero => simp [passPictures] at go
  | succ count ih =>
    rcases goesBind.mp go with ⟨_, same, stops⟩ | ⟨first, _, middle, rest, rfl, one, onward⟩
    · cases same
      obtain ⟨picture, takes, departs⟩ := pictureDeparts even stops
      refine ⟨picture :: List.replicate count blankPicture, by simp, ?_, departsMore departs⟩
      refine List.forall_mem_cons.mpr ⟨takes, fun p member => ?_⟩
      rw [List.eq_of_mem_replicate member]
      exact blankTaken set
    · obtain ⟨picture, takes, rfl, rfl⟩ := goesPicture.mp one
      obtain ⟨pictures, length, all, departs⟩ := ih onward
      exact ⟨picture :: pictures, by simp [length], List.forall_mem_cons.mpr ⟨takes, all⟩,
        departsAfter _ departs⟩

theorem soundDeparts {plan : Plan} (channels : 0 < plan.soundChannels) {frames : Nat} {set : FileSet}
    (go : Goes (passSound plan frames set) before said (.error halt) after) :
    ∃ sound short, Departs stereoscopic (soundSaid plan frames set sound short) said halt := by
  unfold passSound at go
  obtain ⟨answer, rest, rfl, onward⟩ :=
    (goesAskOn (.sound frames (plan.soundChannels * frames))).mp go
  cases answer with
  | error fault =>
    obtain ⟨rfl, same, _⟩ := goesKnownError.mp onward
    cases same
    exact ⟨⟨List.replicate _ 0, List.length_replicate⟩, false, departsHere .unheard⟩
  | ok answer =>
    obtain ⟨sound, short⟩ := answer
    refine ⟨sound, short, departsAfter [_] ?_⟩
    have laid := Sound.deinterleaveExact channels sound.property
    simp only [laid, checked, Halt.ofChecked_ok, goesKnownOk, goesChangeOn, dispatchSound,
      goesPureOn] at onward
    have departs : Departs stereoscopic _ _ _ := sendAllDeparts onward
    rwa [List.map_map] at departs

theorem finishDeparts {sets : List FileSet}
    (go : Goes (finishAll sets) before said (.error halt) after) :
    Departs stereoscopic (finishSaid sets) said halt := by
  induction sets generalizing before said with
  | nil => simp [finishAll] at go
  | cons set rest ih =>
    have split : finishSaid (set :: rest) =
        (set.outlets.map (·, .finish)).map accepted ++ finishSaid rest := by
      simp [finishSaid]
    rw [split]
    rw [finishAll, dispatchFinish, goesPureOn] at go
    rcases goesBind.mp go with ⟨_, same, stops⟩ | ⟨first, _, middle, later, rfl, one, onward⟩
    · cases same
      exact departsMore (sendAllDeparts stops)
    · obtain ⟨rfl, rfl⟩ := goesSendAll.mp one
      exact departsAfter _ (ih onward)

end Acts
end Telecine.Transfer
