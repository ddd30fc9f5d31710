import Telecine.Proofs.Lookahead.Timing

/-! Every history of a decoder and its consumer: their steps in any order, with requests that wait and
requests that do not. A decoder soon has no step left. Where it stands then no request for sound waits,
unless it went without a word while the queue had room. -/
namespace Telecine.Lookahead
open Readahead

inductive Ask
  | await (c : Call)
  | glance
  deriving DecidableEq, Repr

def Ask.call : Ask → Call
  | .await c => c
  | .glance => .picture

def Ask.waits (s : Readahead) : Ask → Bool
  | .await c => Lookahead.waits s c
  | .glance => false

inductive History (s : Readahead) : List Answer → Readahead → Prop where
  | start : History s [] s
  | decoder {answers now next} (before : History s answers now) (step : now.advance = some next) :
      History s answers next
  | consumer {answers now} (before : History s answers now) (ask : Ask)
      (ready : ask.waits now = false) :
      History s (answers ++ [(call now ask.call).1]) (call now ask.call).2

def tally (answers : List Answer) : Taken := answers.foldl Taken.add .none

@[simp] theorem tallyNil : tally [] = .none := rfl

@[simp] theorem tallySnoc (answers : List Answer) (answer : Answer) :
    tally (answers ++ [answer]) = (tally answers).add answer := by
  simp [tally]

theorem historyAdvances {s now later : Readahead} {answers : List Answer} (h : History s answers now)
    (run : Advances now later) : History s answers later := by
  induction run with
  | refl => exact h
  | step first _ ih => exact ih (h.decoder first)

theorem historySplit {s now : Readahead} {before after : List Answer} {answer : Answer}
    (h : History s (before ++ answer :: after) now) :
    ∃ (earlier : Readahead) (ask : Ask), History s before earlier ∧ ask.waits earlier = false ∧
      answer = (call earlier ask.call).1 := by
  generalize same : before ++ answer :: after = answers at h
  induction h generalizing after with
  | start => simp at same
  | decoder _ _ ih => exact ih same
  | consumer so ask ready ih =>
    rcases List.eq_nil_or_concat after with rfl | ⟨front, last, rfl⟩
    · obtain ⟨rfl, told⟩ := List.append_inj' same rfl
      exact ⟨_, ask, so, ready, List.singleton_inj.mp told⟩
    · rw [List.concat_eq_append, ← List.cons_append, ← List.append_assoc] at same
      exact ih (List.append_inj' same rfl).1

section Reachable
variable {feed : Feed} {mix : Mix} {capacity : Nat} {answers : List Answer} {now : Readahead}

theorem historyReached (h : History (start feed mix capacity) answers now) :
    ∃ handed, Reached feed mix capacity (tally answers) handed now := by
  induction h with
  | start => exact ⟨[], startReached feed mix capacity⟩
  | decoder before step ih =>
    obtain ⟨handed, reached⟩ := ih
    obtain ⟨more, _, reached⟩ := advanceReached reached step
    exact ⟨handed ++ more, reached⟩
  | consumer before ask ready ih =>
    obtain ⟨handed, reached⟩ := ih
    exact ⟨handed, by simpa using callReached reached ask.call⟩

theorem stuckIff (s : Readahead) :
    s.advance = none ↔
      s.decoder = .gone ∨
        ∃ picture, s.decoder = .holding (.picture picture) ∧ s.hasRoom = false := by
  constructor
  · exact stuckStage
  · rintro (gone | ⟨picture, holding, full⟩)
    · simp [advance, gone]
    · simp [advance, holding, full]

theorem neverWaits (s : Readahead) :
    (∀ needed, s.soundWaits needed = false) ↔ s.outcome ≠ none ∨ s.hasRoom = false := by
  constructor
  · intro never
    have more := never (s.ring.toList.length + 1)
    cases told : s.outcome <;> simp_all [soundWaits]
  · rintro (told | full) needed
    · simp [soundWaits, told]
    · simp [soundWaits, full]

theorem stuckSilent (h : History (start feed mix capacity) answers now) (stuck : now.advance = none) :
    (∀ needed, now.soundWaits needed = false) ↔ feed.outcome ≠ none ∨ now.hasRoom = false := by
  obtain ⟨handed, reached⟩ := historyReached h
  rw [neverWaits]
  have stage := reached.stage
  rcases stuckStage stuck with gone | ⟨picture, _, full⟩
  · simp only [Stage, gone] at stage
    rw [stage.1]
  · simp [full]

theorem soundReady (h : History (start feed mix capacity) answers now) (tells : feed.outcome ≠ none)
    (frames size : Nat) :
    ∃ later, Advances now later ∧ waits later (.sound frames size) = false := by
  obtain ⟨handed, reached⟩ := historyReached h
  obtain ⟨outcome, tells⟩ := Option.ne_none_iff_exists'.mp tells
  exact ⟨now.runAhead, runAheadAdvances now,
    stuckAtOnce tells (runAheadReached reached) (runAheadStuck now) _⟩

theorem soundReturned (h : History (start feed mix capacity) answers now) (frames size : Nat) :
    if FitsWord64 (frames * mix.outputs) then
      ∃ buffer short real, buffer.length = size ∧
        (call now (.sound frames size)).1 = .sound (.ok (buffer, short)) real
    else (call now (.sound frames size)).1 = .sound (.error .overflow) 0 := by
  obtain ⟨handed, reached⟩ := historyReached h
  split
  · rename_i fits
    have needed := neededExact reached size fits
    exact ⟨_, _, _, silencedLength _ (neededWithin needed), by rw [soundCall needed]⟩
  · rename_i large
    rw [soundFault (neededFault reached size large)]

end Reachable

theorem soundComesBack {feed : Feed} {mix : Mix} {capacity : Nat} {answers : List Answer}
    {now : Readahead} (h : History (start feed mix capacity) answers now) :
    (now.advance = none ↔
        now.decoder = .gone ∨
          ∃ picture, now.decoder = .holding (.picture picture) ∧ now.hasRoom = false) ∧
      (now.advance = none →
        ((∀ needed, now.soundWaits needed = false) ↔
          feed.outcome ≠ none ∨ now.hasRoom = false)) ∧
      (feed.outcome ≠ none → ∀ frames size,
        ∃ later, Advances now later ∧ waits later (.sound frames size) = false) ∧
      ∀ frames size,
        if FitsWord64 (frames * mix.outputs) then
          ∃ buffer short real, buffer.length = size ∧
            (call now (.sound frames size)).1 = .sound (.ok (buffer, short)) real
        else (call now (.sound frames size)).1 = .sound (.error .overflow) 0 :=
  ⟨stuckIff now, stuckSilent h, soundReady h, soundReturned h⟩

def soundBetween : Feed :=
  let picture (ticks : Int) : Item := .picture ⟨⟨0, 0, .empty⟩, .both, ⟨ticks⟩, false⟩
  .gives (picture 0) fun _ => .gives (.sound ⟨1, [[1]]⟩) fun _ =>
    .gives (picture 4000) fun _ => .ends

def parked : Readahead := (start soundBetween (.identity 1) 0).runAhead

theorem parkedComesBack :
    History (start soundBetween (.identity 1) 0) [] parked ∧
      (parked.advance = none ↔
        parked.decoder = .gone ∨
          ∃ picture, parked.decoder = .holding (.picture picture) ∧ parked.hasRoom = false) ∧
      (parked.advance = none →
        ((∀ needed, parked.soundWaits needed = false) ↔
          soundBetween.outcome ≠ none ∨ parked.hasRoom = false)) ∧
      (soundBetween.outcome ≠ none → ∀ frames size,
        ∃ later, Advances parked later ∧ waits later (.sound frames size) = false) ∧
      ∀ frames size,
        if FitsWord64 (frames * 1) then
          ∃ buffer short real, buffer.length = size ∧
            (call parked (.sound frames size)).1 = .sound (.ok (buffer, short)) real
        else (call parked (.sound frames size)).1 = .sound (.error .overflow) 0 :=
  have so : History (start soundBetween (.identity 1) 0) [] parked :=
    historyAdvances .start (runAheadAdvances _)
  ⟨so, soundComesBack so⟩

def crashed : Readahead := (start .crashes (.identity 1) 1).read

/-- A decoder that crashed has no step left and gave no reason, so the request waits for ever. A
request for more samples than a word can count does not come back either. -/
theorem soundNeverComes :
    (History (start .crashes (.identity 1) 1) [] crashed ∧ crashed.decoder = .gone ∧
        crashed.soundWaits 1 = true ∧
        ∀ later, Advances crashed later → waits later (.sound 1 1) = true) ∧
      let ended := (start .ends (.identity 3) 1).runAhead
      ended.decoder = .gone ∧ ended.outcome = some .finished ∧
        ended.takeSound 9223372036854775807 1 = .error .overflow := by
  refine ⟨⟨.decoder .start rfl, rfl, rfl, fun later run => ?_⟩, rfl, rfl, rfl⟩
  cases run with
  | refl => rfl
  | step first => cases first

end Telecine.Lookahead
