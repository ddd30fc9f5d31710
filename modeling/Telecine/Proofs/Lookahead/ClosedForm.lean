import Telecine.Proofs.Lookahead.Calls

/-! A decoder that is always as far ahead as it can be has no state of its own: with what was taken so
far, everything it holds and answers can be read off the feed. -/
namespace Telecine.Lookahead
open Readahead

def reach (feed : Feed) (capacity : Nat) (taken : Taken) : List Item :=
  lead (taken.pictures + max capacity 1) feed.items

def supply (feed : Feed) (mix : Mix) (capacity : Nat) (taken : Taken) : List Float32 :=
  (samples mix (reach feed capacity taken)).drop taken.samples

/-- With one picture more than the queue holds still to come, the end was not read. -/
def ReachesEnd (feed : Feed) (capacity : Nat) (taken : Taken) : Prop :=
  (pictures feed.items).length ≤ taken.pictures + max capacity 1

instance (feed : Feed) (capacity : Nat) (taken : Taken) : Decidable (ReachesEnd feed capacity taken) := by
  unfold ReachesEnd; infer_instance

def serve (taken : Taken) (s : Readahead) : List Call → Taken × Readahead
  | [] => (taken, s)
  | c :: calls => serve (taken.add (call s.runAhead c).1) (call s.runAhead c).2 calls

structure ClosedForm (feed : Feed) (mix : Mix) (capacity : Nat) (outcome : Outage) (taken : Taken)
    (now : Readahead) : Prop where
  queue : now.queue = (pictures (reach feed capacity taken)).drop taken.pictures
  bounded : now.queue.length ≤ max capacity 1
  ring : now.ring.toList = supply feed mix capacity taken
  atOnce : ∀ c, waits now c = false
  picture : now.takePicture.1 = match (pictures (reach feed capacity taken))[taken.pictures]? with
    | some picture => .ok picture
    | none => .error outcome
  sound : ∀ frames size, FitsWord64 (frames * mix.outputs) →
    let needed := min (frames * mix.outputs) size
    let available := (supply feed mix capacity taken).length
    ∃ answer next, now.takeSound frames size = .ok (answer, next) ∧
      answer.1.val = (supply feed mix capacity taken).take needed ++
        List.replicate (size - min needed available) 0 ∧
      (answer.2 = true ↔ available < needed) ∧
      next.ring.toList = (supply feed mix capacity taken).drop needed
  overflow : ∀ frames size, ¬FitsWord64 (frames * mix.outputs) →
    now.takeSound frames size = .error .overflow
  trouble : now.takeFailure.1 =
    if ReachesEnd feed capacity taken ∧ taken.failure = false then feed.failure else none

section Stuck
variable {feed : Feed} {mix : Mix} {capacity : Nat} {taken : Taken} {handed : List Item}
  {s : Readahead}

theorem stuckGone (h : Reached feed mix capacity taken handed s) (stuck : s.advance = none) :
    s.decoder = .gone ↔ ReachesEnd feed capacity taken := by
  constructor
  · intro gone
    have bounded := h.bounded
    rwa [goneHanded h gone] at bounded
  · intro few
    rcases stuckStage stuck with gone | ⟨picture, holding, _⟩
    · exact gone
    · have all : handed = feed.items := by rw [stuckHanded h stuck]; exact leadAll few
      have read := congrArg List.length h.read
      simp [held, holding, all] at read

theorem stuckQueue (h : Reached feed mix capacity taken handed s) (stuck : s.advance = none)
    (queue : s.queue = []) : s.decoder = .gone := by
  rcases stuckStage stuck with gone | ⟨picture, _, full⟩
  · exact gone
  · have room : s.capacity ≤ 0 := by simpa [hasRoom, queue] using full
    have least := h.room
    omega

theorem goneOutcome {outcome : Outage} (tells : feed.outcome = some outcome)
    (h : Reached feed mix capacity taken handed s) (gone : s.decoder = .gone) :
    s.outcome = some outcome := by
  have stage := h.stage
  simp only [Stage, gone] at stage
  exact stage.1.trans tells

theorem stuckAtOnce {outcome : Outage} (tells : feed.outcome = some outcome)
    (h : Reached feed mix capacity taken handed s) (stuck : s.advance = none) (c : Call) :
    waits s c = false := by
  cases c with
  | picture =>
    cases queue : s.queue with
    | nil => simp [waits, pictureWaits, isGone, stuckQueue h stuck queue]
    | cons => simp [waits, pictureWaits, queue]
  | sound frames size =>
    cases hn : s.needed frames size with
    | error fault => simp [waits, hn]
    | ok needed =>
      rcases stuckStage stuck with gone | ⟨_, _, full⟩
      · simp [waits, hn, soundWaits, goneOutcome tells h gone]
      · simp [waits, hn, soundWaits, full]
  | trouble => rfl

theorem stuckPicture {outcome : Outage} (tells : feed.outcome = some outcome)
    (h : Reached feed mix capacity taken handed s) (stuck : s.advance = none) :
    s.takePicture.1 = match (pictures handed)[taken.pictures]? with
      | some picture => .ok picture
      | none => .error outcome := by
  rw [← List.head?_drop, ← h.queue]
  cases queue : s.queue with
  | nil =>
    have gone := stuckQueue h stuck queue
    simp [takePicture, queue, isGone, gone, goneOutcome tells h gone]
  | cons picture rest => simp [takePicture, queue]

theorem stuckTrouble (h : Reached feed mix capacity taken handed s) (stuck : s.advance = none) :
    s.takeFailure.1 =
      if ReachesEnd feed capacity taken ∧ taken.failure = false then feed.failure else none := by
  have stage := h.stage
  have ended := stuckGone h stuck
  rcases stuckStage stuck with gone | ⟨picture, holding, _⟩
  · simp only [Stage, gone] at stage
    cases told : taken.failure <;> simp [takeFailure, stage, told, ended.mp gone]
  · simp only [Stage, holding] at stage
    simp only [holding, reduceCtorEq, false_iff] at ended
    simp [takeFailure, stage, ended]

theorem stuckSound (h : Reached feed mix capacity taken handed s) {frames size : Nat}
    (fits : FitsWord64 (frames * mix.outputs)) :
    let needed := min (frames * mix.outputs) size
    let supply := (samples mix handed).drop taken.samples
    ∃ answer next, s.takeSound frames size = .ok (answer, next) ∧
      answer.1.val = supply.take needed ++ List.replicate (size - min needed supply.length) 0 ∧
      (answer.2 = true ↔ supply.length < needed) ∧ next.ring.toList = supply.drop needed := by
  intro needed supply
  have hn : s.needed frames size = .ok needed := neededExact h size fits
  refine ⟨_, _, takeSoundExact hn, ?_, ?_, ?_⟩
  · simp only [silenced, h.ring, supply]
  · simp only [h.ring, decide_eq_true_eq, supply]
  · simp only [Ring.toList_take_snd, h.ring, supply]

theorem closedFormAhead {outcome : Outage} (tells : feed.outcome = some outcome)
    (h : Reached feed mix capacity taken handed s) :
    ClosedForm feed mix capacity outcome taken s.runAhead := by
  have reached := runAheadReached h
  have stuck := runAheadStuck s
  refine ⟨reached.queue, ?_, reached.ring, stuckAtOnce tells reached stuck,
    stuckPicture tells reached stuck, fun frames size fits => stuckSound reached fits,
    fun frames size large => takeSoundFault (neededFault reached size large),
    stuckTrouble reached stuck⟩
  have bounded := reached.bounded
  rw [queueLength reached]
  omega

end Stuck

theorem serveReached {feed mix capacity taken handed s}
    (h : Reached feed mix capacity taken handed s) (calls : List Call) :
    ∃ handed, Reached feed mix capacity (serve taken s calls).1 handed (serve taken s calls).2 := by
  induction calls generalizing taken handed s with
  | nil => exact ⟨handed, h⟩
  | cons c calls ih => exact ih (callReached (runAheadReached h) c)

theorem serveAppend (taken : Taken) (s : Readahead) (calls later : List Call) :
    serve taken s (calls ++ later) = serve (serve taken s calls).1 (serve taken s calls).2 later := by
  induction calls generalizing taken s with
  | nil => rfl
  | cons c calls ih => exact ih _ _

theorem addPictures (taken : Taken) (answer : Answer) :
    taken.pictures ≤ (taken.add answer).pictures := by
  cases answer with
  | picture answer => cases answer <;> simp [Taken.add]
  | sound | trouble => exact Nat.le_refl _

theorem servePictures (taken : Taken) (s : Readahead) (calls : List Call) :
    taken.pictures ≤ (serve taken s calls).1.pictures := by
  induction calls generalizing taken s with
  | nil => exact Nat.le_refl _
  | cons c calls ih => exact Nat.le_trans (addPictures taken _) (ih _ _)

theorem reachNext (feed : Feed) (capacity : Nat) (taken : Taken) :
    (pictures (reach feed capacity taken))[taken.pictures]? =
      (pictures feed.items)[taken.pictures]? := by
  rw [reach, leadPictures, List.getElem?_take_of_lt]
  omega

theorem noPictureForm {feed mix capacity outcome taken now}
    (form : ClosedForm feed mix capacity outcome taken now) :
    now.takePicture.1 = .error outcome ↔ (pictures feed.items).length ≤ taken.pictures := by
  rw [form.picture, reachNext, ← List.getElem?_eq_none_iff]
  cases (pictures feed.items)[taken.pictures]? <;> simp

theorem outcomeIsFinal {feed : Feed} {outcome : Outage} (tells : feed.outcome = some outcome) :
    outcome ≠ .notYet := by
  intro h
  subst h
  unfold Feed.outcome at tells
  split at tells <;> simp at tells

theorem servedClosedForm {feed : Feed} {outcome : Outage} (tells : feed.outcome = some outcome)
    (mix : Mix) (capacity : Nat) (calls : List Call) :
    let served := serve .none (start feed mix capacity) calls
    ClosedForm feed mix capacity outcome served.1 served.2.runAhead ∧
      served.2.runAhead.takePicture.1 ≠ .error .notYet ∧
      (served.2.runAhead.takePicture.1 = .error outcome → ∀ later,
        (serve .none (start feed mix capacity) (calls ++ later)).2.runAhead.takePicture.1 =
          .error outcome) := by
  have form (calls : List Call) := closedFormAhead tells
    (serveReached (startReached feed mix capacity) calls).choose_spec
  refine ⟨form calls, ?_, ?_⟩
  · rw [(form calls).picture]
    split
    · simp
    · simpa using outcomeIsFinal tells
  · intro ended later
    have short := (noPictureForm (form calls)).mp ended
    have more := servePictures (serve .none (start feed mix capacity) calls).1
      (serve .none (start feed mix capacity) calls).2 later
    rw [← serveAppend] at more
    exact (noPictureForm (form (calls ++ later))).mpr (Nat.le_trans short more)

def brokenFeed : Feed := .gives (.sound ⟨2, [[1, 0.5]]⟩) fun _ => .fails (.decode "lost")

theorem servedBrokenFeed :
    brokenFeed.outcome = some .died ∧
      let served := serve .none (start brokenFeed (.identity 1) 0) [.picture, .sound 1 1, .trouble]
      ClosedForm brokenFeed (.identity 1) 0 .died served.1 served.2.runAhead ∧
        served.2.runAhead.ring.toList = [0.5] ∧
        served.2.runAhead.takePicture.1 ≠ .error .notYet ∧
        (served.2.runAhead.takePicture.1 = .error .died → ∀ later,
          (serve .none (start brokenFeed (.identity 1) 0)
            ([.picture, .sound 1 1, .trouble] ++ later)).2.runAhead.takePicture.1 = .error .died) := by
  have tells : brokenFeed.outcome = some .died := rfl
  obtain ⟨form, answered, ended⟩ :=
    servedClosedForm tells (.identity 1) 0 [.picture, .sound 1 1, .trouble]
  have left : supply brokenFeed (.identity 1) 0
      (serve .none (start brokenFeed (.identity 1) 0) [.picture, .sound 1 1, .trouble]).1 = [0.5] := by
    decide +kernel
  exact ⟨tells, form, form.ring.trans left, answered, ended⟩

theorem requestOverflows :
    let feed := Feed.gives (.sound ⟨1, [[1], [1], [1]]⟩) fun _ => .ends
    let now := (serve .none (start feed (.identity 3) 1) []).2.runAhead
    feed.outcome = some .finished ∧ now.ring.toList = [1, 1, 1] ∧
      now.takeSound 9223372036854775807 1 = .error .overflow ∧
      ¬∀ frames size, ∃ answer next, now.takeSound frames size = .ok (answer, next) := by
  intro feed now
  have large : now.takeSound 9223372036854775807 1 = .error .overflow := rfl
  refine ⟨rfl, by decide +kernel, large, fun answers => ?_⟩
  obtain ⟨_, _, answered⟩ := answers 9223372036854775807 1
  cases large.symm.trans answered

end Telecine.Lookahead
