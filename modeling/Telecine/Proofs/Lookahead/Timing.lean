import Telecine.Proofs.Lookahead.ClosedForm

/-! What the consumer hears of the order in which decoder and consumer step. A picture never depends
on it. Sound does: a request also comes back when the queue is full, which it can be before the sound
behind the last queued picture is handed over. `Paced` says that no request wants that sound. -/
namespace Telecine.Lookahead
open Readahead

def stock (feed : Feed) (mix : Mix) (taken : Taken) (n : Nat) : Nat :=
  (samples mix (lead n feed.items)).length - taken.samples

def wanted (mix : Mix) (frames size : Nat) : Nat :=
  if FitsWord64 (frames * mix.outputs) then min (frames * mix.outputs) size else 0

/-- At each request the sound in front of the picture that fills the queue gives as much of what is
wanted as the sound in front of the picture that the queue has no place for. -/
def Paced (feed : Feed) (mix : Mix) (capacity : Nat) (taken : Taken) : List Call → Prop
  | [] => True
  | .picture :: calls =>
    Paced feed mix capacity
      (if taken.pictures < (pictures feed.items).length then
        { taken with pictures := taken.pictures + 1 } else taken) calls
  | .sound frames size :: calls =>
    let full := taken.pictures + max capacity 1
    let got := min (wanted mix frames size) (stock feed mix taken full)
    min (wanted mix frames size) (stock feed mix taken (full - 1)) = got ∧
      Paced feed mix capacity { taken with samples := taken.samples + got } calls
  | .trouble :: calls => Paced feed mix capacity taken calls

def Answer.picture? : Answer → Option (Except Outage Picture)
  | .picture answer => some answer
  | _ => none

section Answers
variable {feed : Feed} {mix : Mix} {capacity : Nat} {outcome : Outage} {taken : Taken}
  {handed : List Item} {s : Readahead}

def closedPicture (feed : Feed) (outcome : Outage) (n : Nat) : Except Outage Picture :=
  match (pictures feed.items)[n]? with
  | some picture => .ok picture
  | none => .error outcome

def closedSound (mix : Mix) (supply : List Float32) (frames size : Nat) : Answer :=
  if FitsWord64 (frames * mix.outputs) then
    let needed := min (frames * mix.outputs) size
    .sound (.ok (silenced supply needed size, decide (supply.length < needed)))
      (min needed supply.length)
  else .sound (.error .overflow) 0

theorem readyPicture (tells : feed.outcome = some outcome)
    (h : Reached feed mix capacity taken handed s) (ready : waits s .picture = false) :
    (call s .picture).1 = .picture (closedPicture feed outcome taken.pictures) := by
  cases queue : s.queue with
  | nil =>
    have gone : s.decoder = .gone := by
      cases hd : s.decoder <;> simp [waits, pictureWaits, isGone, queue, hd] at ready ⊢
    simp [call, takePicture, queue, isGone, gone, goneOutcome tells h gone, closedPicture,
      noPictureLeft h queue gone]
  | cons picture rest => simp [call, takePicture, queue, closedPicture, nextPicture h queue]

theorem aheadPicture (tells : feed.outcome = some outcome)
    (h : Reached feed mix capacity taken handed s) :
    (call s.runAhead .picture).1 = .picture (closedPicture feed outcome taken.pictures) :=
  readyPicture tells (runAheadReached h)
    (stuckAtOnce tells (runAheadReached h) (runAheadStuck s) .picture)

theorem soundAnswer (h : Reached feed mix capacity taken handed s) (frames size : Nat) :
    (call s (.sound frames size)).1 = closedSound mix s.ring.toList frames size := by
  unfold closedSound
  split
  · rename_i fits
    rw [soundCall (neededExact h size fits)]
  · rename_i large
    rw [soundFault (neededFault h size large)]

theorem aheadSound (h : Reached feed mix capacity taken handed s) (frames size : Nat) :
    (call s.runAhead (.sound frames size)).1 =
      closedSound mix (supply feed mix capacity taken) frames size := by
  have reached := runAheadReached h
  rw [soundAnswer reached, reached.ring]
  rfl

theorem closedSoundPrefix {front whole : List Float32} (h : front <+: whole) {frames size : Nat}
    (enough : min (wanted mix frames size) front.length = min (wanted mix frames size) whole.length) :
    closedSound mix front frames size = closedSound mix whole frames size := by
  unfold wanted at enough
  unfold closedSound
  split
  · rename_i fits
    rw [if_pos fits] at enough
    have short : front.length < min (frames * mix.outputs) size ↔
        whole.length < min (frames * mix.outputs) size := by
      have length := h.length_le
      omega
    have same : front.take (min (frames * mix.outputs) size) =
        whole.take (min (frames * mix.outputs) size) := by
      obtain ⟨rest, rfl⟩ := h
      by_cases long : min (frames * mix.outputs) size ≤ front.length
      · rw [List.take_append_of_le_length long]
      · have none : rest = [] := by
          simp only [List.length_append] at enough
          exact List.length_eq_zero_iff.mp (by omega)
        simp [none]
    simp only [silenced, same, enough, short]
  · rfl

theorem closedSoundShort {front whole : List Float32} (h : front <+: whole) {frames size : Nat}
    (less : min (wanted mix frames size) front.length < min (wanted mix frames size) whole.length) :
    ∃ buffer fuller short,
      closedSound mix front frames size = .sound (.ok (buffer, true)) front.length ∧
      closedSound mix whole frames size =
        .sound (.ok (fuller, short)) (min (wanted mix frames size) whole.length) ∧
      front.length < min (wanted mix frames size) whole.length ∧
      buffer = fuller.take front.length ++ List.replicate (fuller.length - front.length) 0 := by
  unfold wanted at less ⊢
  unfold closedSound
  split at less
  · rename_i fits
    rw [if_pos fits, if_pos fits, if_pos fits]
    generalize count : min (frames * mix.outputs) size = needed at less ⊢
    have within : needed ≤ size := count ▸ Nat.min_le_right ..
    have low : front.length < needed := by omega
    have early : min needed front.length = front.length := by omega
    have same : (silenced whole needed size).take front.length = front := by
      obtain ⟨rest, rfl⟩ := h
      rw [List.length_append] at less
      rw [silenced, List.take_append_of_le_length (by simp; omega), List.take_take,
        Nat.min_eq_left (Nat.le_of_lt low), List.take_left]
    refine ⟨silenced front needed size, silenced whole needed size, decide (whole.length < needed), ?_,
      rfl, by omega, ?_⟩
    · simp only [early, low, decide_true]
    · rw [same, silencedLength whole within, silenced, early, List.take_of_length_le (Nat.le_of_lt low)]
  · omega

theorem realSamples (mix : Mix) (supply : List Float32) (taken : Taken) (frames size : Nat) :
    taken.add (closedSound mix supply frames size) =
      { taken with samples := taken.samples + min (wanted mix frames size) supply.length } := by
  unfold closedSound wanted
  split <;> simp [Taken.add]

theorem addPicture (feed : Feed) (outcome : Outage) (taken : Taken) :
    taken.add (.picture (closedPicture feed outcome taken.pictures)) =
      if taken.pictures < (pictures feed.items).length then
        { taken with pictures := taken.pictures + 1 } else taken := by
  unfold closedPicture
  split
  · rename_i picture found
    rw [if_pos (List.getElem?_eq_some_iff.mp found).1]
    rfl
  · rename_i missing
    rw [if_neg (by simpa using missing)]
    rfl

end Answers

section Ready
variable {feed : Feed} {mix : Mix} {capacity : Nat} {outcome : Outage} {taken : Taken}
  {handed : List Item} {s next : Readahead}

theorem ringLength (h : Reached feed mix capacity taken handed s) :
    s.ring.toList.length = (samples mix handed).length - taken.samples := by
  rw [h.ring, List.length_drop]

theorem ringPrefix (h : Reached feed mix capacity taken handed s) :
    s.ring.toList <+: supply feed mix capacity taken := by
  obtain ⟨rest, same⟩ := samplesPrefix mix (handedLead h)
  exact ⟨rest, by rw [h.ring, supply, reach, ← same, List.drop_append_of_le_length h.heard]⟩

theorem supplyLength (feed : Feed) (mix : Mix) (capacity : Nat) (taken : Taken) :
    (supply feed mix capacity taken).length =
      stock feed mix taken (taken.pictures + max capacity 1) := List.length_drop

theorem fullHanded (h : Reached feed mix capacity taken handed s) (full : s.hasRoom = false) :
    lead (taken.pictures + max capacity 1 - 1) feed.items <+: handed := by
  have queued : max capacity 1 ≤ (pictures handed).length - taken.pictures := by
    rw [← queueLength h]
    exact (queueFull h).mp full
  refine (List.prefix_or_prefix_of_prefix (handedPrefix h) (leadPrefix _ _)).resolve_left ?_
  intro early
  have few := (picturesPrefix early).length_le
  rw [leadPictures, List.length_take] at few
  omega

theorem readySound (h : Reached feed mix capacity taken handed s) {frames size : Nat}
    (ready : waits s (.sound frames size) = false) :
    min (wanted mix frames size) (stock feed mix taken (taken.pictures + max capacity 1 - 1)) ≤
      s.ring.toList.length := by
  have length := ringLength h
  have covered (n : Nat) (all : lead n feed.items <+: handed) :
      stock feed mix taken n ≤ s.ring.toList.length := by
    have le := (samplesPrefix mix all).length_le
    unfold stock
    omega
  unfold wanted
  split
  · rename_i fits
    have needed := neededExact h size fits
    simp only [waits, needed, soundWaits, Bool.and_eq_false_iff, decide_eq_false_iff_not] at ready
    rcases ready with (enough | told) | full
    · omega
    · have gone : s.decoder = .gone := by
        have stage := h.stage
        cases hd : s.decoder with
        | gone => rfl
        | idle | holding item | stopping reason =>
          simp only [Stage, hd] at stage
          simp [stage.1] at told
      have all := covered (taken.pictures + max capacity 1 - 1)
        (by rw [goneHanded h gone]; exact leadPrefix _ _)
      omega
    · have all := covered _ (fullHanded h full)
      omega
  · omega

theorem pacedSound (h : Reached feed mix capacity taken handed s) {frames size : Nat}
    (ready : waits s (.sound frames size) = false)
    (paced : min (wanted mix frames size)
        (stock feed mix taken (taken.pictures + max capacity 1 - 1)) =
      min (wanted mix frames size) (stock feed mix taken (taken.pictures + max capacity 1))) :
    (call s (.sound frames size)).1 =
      closedSound mix (supply feed mix capacity taken) frames size := by
  rw [soundAnswer h]
  refine closedSoundPrefix (ringPrefix h) ?_
  have least := readySound h ready
  have most := (ringPrefix h).length_le
  have length := supplyLength feed mix capacity taken
  omega

theorem waitsRoom (h : Reached feed mix capacity taken handed s) {c : Call}
    (wait : waits s c = true) : s.hasRoom = true := by
  cases c with
  | picture =>
    have empty : s.queue = [] := by
      simp only [waits, pictureWaits, Bool.and_eq_true, List.isEmpty_iff] at wait
      exact wait.1
    have room := h.room
    simp only [hasRoom, empty, List.length_nil, decide_eq_true_eq]
    omega
  | sound frames size =>
    unfold waits at wait
    cases hn : s.needed frames size with
    | ok needed =>
      simp only [hn, soundWaits, Bool.and_eq_true] at wait
      exact wait.2
    | error fault => simp [hn] at wait
  | trouble => simp [waits] at wait

end Ready
end Telecine.Lookahead
