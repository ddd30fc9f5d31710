import Mathlib.Data.List.Basic
import Telecine.Proofs.Lookahead.Lead

/-! Where a decoder and its consumer stand to the feed between them, whatever the order of their steps:
what was handed over is a beginning of the feed, and queue and ring hold what is left of it. Once the
decoder can take no step that beginning is known from what the consumer has taken. -/
namespace Telecine.Lookahead
open Readahead

structure Taken where
  pictures : Nat
  samples : Nat
  failure : Bool
  deriving DecidableEq, Repr

def Taken.none : Taken := ⟨0, 0, false⟩

def held (s : Readahead) : List Item := match s.decoder with
  | .holding item => [item]
  | _ => []

/-- The end of the feed is told of in two steps: the failure is left when it is read, the reason when
the decoder goes. -/
def Stage (feed : Feed) (told : Bool) (s : Readahead) : Prop := match s.decoder with
  | .idle | .holding _ => s.outcome = none ∧ s.failure = none ∧ told = false
  | .stopping reason => s.outcome = none ∧ feed.outcome = some reason ∧ s.feed.items = [] ∧
      s.failure = if told then none else feed.failure
  | .gone => s.outcome = feed.outcome ∧ s.feed.items = [] ∧
      s.failure = if told then none else feed.failure

structure Reached (feed : Feed) (mix : Mix) (capacity : Nat) (taken : Taken) (handed : List Item)
    (s : Readahead) : Prop where
  mixed : s.mix = mix
  room : s.capacity = max capacity 1
  read : feed.items = handed ++ held s ++ s.feed.items
  ending : s.feed.ending = feed.ending
  queue : s.queue = (pictures handed).drop taken.pictures
  shown : taken.pictures ≤ (pictures handed).length
  bounded : (pictures handed).length ≤ taken.pictures + max capacity 1
  ring : s.ring.toList = (samples mix handed).drop taken.samples
  heard : taken.samples ≤ (samples mix handed).length
  stage : Stage feed taken.failure s

section Steps
variable {feed : Feed} {mix : Mix} {capacity : Nat} {taken : Taken} {handed : List Item}
  {s next : Readahead}

theorem startReached (feed : Feed) (mix : Mix) (capacity : Nat) :
    Reached feed mix capacity .none [] (start feed mix capacity) where
  mixed := rfl
  room := rfl
  read := rfl
  ending := rfl
  queue := rfl
  shown := Nat.le_refl _
  bounded := Nat.zero_le _
  ring := rfl
  heard := Nat.le_refl _
  stage := ⟨rfl, rfl, rfl⟩

theorem handedPrefix (h : Reached feed mix capacity taken handed s) : handed <+: feed.items :=
  ⟨held s ++ s.feed.items, by rw [h.read, List.append_assoc]⟩

theorem handedLead (h : Reached feed mix capacity taken handed s) :
    handed <+: lead (taken.pictures + max capacity 1) feed.items :=
  prefixOfLead (handedPrefix h) h.bounded

theorem queueLength (h : Reached feed mix capacity taken handed s) :
    s.queue.length = (pictures handed).length - taken.pictures := by
  rw [h.queue, List.length_drop]

theorem queueShort (h : Reached feed mix capacity taken handed s) :
    s.hasRoom = true ↔ s.queue.length < max capacity 1 := by
  rw [hasRoom, h.room, decide_eq_true_eq]

theorem queueFull (h : Reached feed mix capacity taken handed s) :
    s.hasRoom = false ↔ max capacity 1 ≤ s.queue.length := by
  rw [hasRoom, h.room, decide_eq_false_iff_not, Nat.not_lt]

theorem readReached (h : Reached feed mix capacity taken handed s) (idle : s.decoder = .idle) :
    Reached feed mix capacity taken handed s.read := by
  obtain ⟨mixed, room, read, ending, queue, shown, bounded, ring, heard, stage⟩ := h
  simp only [held, idle, List.append_nil] at read
  simp only [Stage, idle] at stage
  obtain ⟨silent, unfailed, untold⟩ := stage
  unfold Readahead.read
  cases hf : s.feed with
  | gives item rest =>
    rw [hf] at read ending
    exact ⟨mixed, room, by simpa [held, Feed.items] using read, ending, queue, shown, bounded, ring,
      heard, silent, unfailed, untold⟩
  | ends =>
    rw [hf] at read ending
    have ended : feed.outcome = some .finished ∧ feed.failure = none := by
      simp [Feed.outcome, Feed.failure, ← ending, Feed.ending]
    exact ⟨mixed, room, by simpa [held] using read, ending, queue, shown, bounded, ring, heard, silent,
      ended.1, rfl, by simp [untold, unfailed, ended.2]⟩
  | fails failure =>
    rw [hf] at read ending
    have ended : feed.outcome = some .died ∧ feed.failure = some failure := by
      simp [Feed.outcome, Feed.failure, ← ending, Feed.ending]
    exact ⟨mixed, room, by simpa [held] using read, ending, queue, shown, bounded, ring, heard, silent,
      ended.1, rfl, by simp [untold, ended.2]⟩
  | crashes =>
    rw [hf] at read ending
    have ended : feed.outcome = none ∧ feed.failure = none := by
      simp [Feed.outcome, Feed.failure, ← ending, Feed.ending]
    exact ⟨mixed, room, by simpa [held] using read, ending, queue, shown, bounded, ring, heard,
      by rw [ended.1]; exact silent, rfl, by simp [untold, unfailed, ended.2]⟩

theorem advanceReached (h : Reached feed mix capacity taken handed s) (step : s.advance = some next) :
    ∃ more, more <+: held s ∧ Reached feed mix capacity taken (handed ++ more) next := by
  unfold advance at step
  cases hd : s.decoder with
  | idle =>
    simp only [hd] at step
    cases Option.some.inj step
    exact ⟨[], List.nil_prefix, by simpa using readReached h hd⟩
  | holding item =>
    obtain ⟨mixed, room, read, ending, queue, shown, bounded, ring, heard, stage⟩ := h
    have inHand : held s = [item] := by simp [held, hd]
    rw [inHand] at read
    simp only [Stage, hd] at stage
    cases item with
    | sound sound =>
      simp only [hd] at step
      cases Option.some.inj step
      refine ⟨[.sound sound], inHand ▸ List.prefix_rfl, mixed, room, by simpa [held] using read, ending,
        by simpa using queue, by simpa using shown, by simpa using bounded, ?_, ?_, stage⟩
      · simp [ring, mixed, List.drop_append_of_le_length heard]
      · simp; omega
    | picture picture =>
      simp only [hd, Option.ite_none_right_eq_some] at step
      obtain ⟨short, step⟩ := step
      cases Option.some.inj step
      have short : (pictures handed).length - taken.pictures < max capacity 1 := by
        simpa [hasRoom, queue, room] using short
      refine ⟨[.picture picture], inHand ▸ List.prefix_rfl, mixed, room, by simpa [held] using read,
        ending, ?_, ?_, ?_, by simpa using ring, by simpa using heard, stage⟩
      · simp [queue, List.drop_append_of_le_length shown]
      · simp; omega
      · simp; omega
  | stopping reason =>
    obtain ⟨mixed, room, read, ending, queue, shown, bounded, ring, heard, stage⟩ := h
    simp only [held, hd] at read
    simp only [Stage, hd] at stage
    simp only [hd] at step
    cases Option.some.inj step
    exact ⟨[], List.nil_prefix, mixed, room, by simpa [held] using read, ending, by simpa using queue,
      by simpa using shown, by simpa using bounded, by simpa using ring, by simpa using heard,
      stage.2.1.symm, stage.2.2⟩
  | gone => simp [hd] at step

theorem stuckStage (stuck : s.advance = none) :
    s.decoder = .gone ∨ ∃ picture, s.decoder = .holding (.picture picture) ∧ s.hasRoom = false := by
  unfold advance at stuck
  cases hd : s.decoder with
  | idle => simp [hd] at stuck
  | holding item =>
    cases item with
    | sound sound => simp [hd] at stuck
    | picture picture => exact .inr ⟨picture, rfl, by simpa [hd] using stuck⟩
  | stopping reason => simp [hd] at stuck
  | gone => exact .inl rfl

theorem goneHanded (h : Reached feed mix capacity taken handed s) (gone : s.decoder = .gone) :
    handed = feed.items := by
  have stage := h.stage
  simp only [Stage, gone] at stage
  simpa [held, gone, stage.2.1] using h.read.symm

theorem stuckHanded (h : Reached feed mix capacity taken handed s) (stuck : s.advance = none) :
    handed = lead (taken.pictures + max capacity 1) feed.items := by
  rcases stuckStage stuck with gone | ⟨picture, holding, full⟩
  · have all := goneHanded h gone
    rw [leadAll (by rw [← all]; exact h.bounded), all]
  · have bounded := h.bounded
    have shown := h.shown
    have count : (pictures handed).length = taken.pictures + max capacity 1 := by
      have length := queueLength h
      have full := (queueFull h).mp full
      omega
    have read := h.read
    simp only [held, holding, List.append_assoc, List.singleton_append] at read
    rw [read, ← count, leadStops]

end Steps

inductive Advances : Readahead → Readahead → Prop where
  | refl (s) : Advances s s
  | step {s next last} (first : s.advance = some next) (rest : Advances next last) : Advances s last

theorem advancesReached {feed mix capacity taken handed s last} (run : Advances s last)
    (h : Reached feed mix capacity taken handed s) :
    ∃ more, Reached feed mix capacity taken (handed ++ more) last := by
  induction run generalizing handed with
  | refl => exact ⟨[], by simpa using h⟩
  | step first rest ih =>
    obtain ⟨more, _, reached⟩ := advanceReached h first
    obtain ⟨further, reached⟩ := ih reached
    exact ⟨more ++ further, by simpa using reached⟩

theorem readOnAdvances (s : Readahead) (feed : Feed) :
    Advances { s with decoder := .idle, feed } (s.readOn feed) := by
  induction feed generalizing s with
  | gives item rest ih =>
    cases item with
    | sound sound =>
      refine .step rfl (.step rfl ?_)
      exact ih () { s with ring := s.ring.push (Readahead.samples s.mix sound) }
    | picture picture =>
      refine .step rfl ?_
      unfold readOn
      split
      · rename_i room
        refine .step (if_pos room) ?_
        exact ih () { s with queue := s.queue ++ [picture] }
      · exact .refl _
  | ends => exact .step rfl (.step rfl (.refl _))
  | fails failure => exact .step rfl (.step rfl (.refl _))
  | crashes => exact .step rfl (.refl _)

theorem runAheadAdvances (s : Readahead) : Advances s s.runAhead := by
  obtain ⟨mix, capacity, feed, decoder, queue, ring, outcome, failure⟩ := s
  cases decoder with
  | idle => exact readOnAdvances ⟨mix, capacity, feed, .idle, queue, ring, outcome, failure⟩ feed
  | holding item =>
    cases item with
    | sound sound =>
      let pushed := ring.push (Readahead.samples mix sound)
      exact .step rfl
        (readOnAdvances ⟨mix, capacity, feed, .idle, queue, pushed, outcome, failure⟩ feed)
    | picture picture =>
      simp only [runAhead]
      split
      · rename_i room
        let shown := queue ++ [picture]
        exact .step (if_pos room)
          (readOnAdvances ⟨mix, capacity, feed, .idle, shown, ring, outcome, failure⟩ feed)
      · exact .refl _
  | stopping reason => exact .step rfl (.refl _)
  | gone => exact .refl _

theorem readOnStuck (s : Readahead) (feed : Feed) : (s.readOn feed).advance = none := by
  induction feed generalizing s with
  | gives item rest ih =>
    cases item with
    | sound sound => exact ih () _
    | picture picture =>
      unfold readOn
      split
      · exact ih () _
      · rename_i full
        exact if_neg full
  | ends => rfl
  | fails failure => rfl
  | crashes => rfl

theorem runAheadStuck (s : Readahead) : s.runAhead.advance = none := by
  obtain ⟨mix, capacity, feed, decoder, queue, ring, outcome, failure⟩ := s
  cases decoder with
  | idle => exact readOnStuck _ feed
  | holding item =>
    cases item with
    | sound sound => exact readOnStuck _ feed
    | picture picture =>
      simp only [runAhead]
      split
      · exact readOnStuck _ feed
      · rename_i full
        exact if_neg full
  | stopping reason => rfl
  | gone => rfl

theorem runAheadReached {feed mix capacity taken handed s}
    (h : Reached feed mix capacity taken handed s) :
    Reached feed mix capacity taken (lead (taken.pictures + max capacity 1) feed.items)
      s.runAhead := by
  obtain ⟨more, reached⟩ := advancesReached (runAheadAdvances s) h
  rw [stuckHanded reached (runAheadStuck s)] at reached
  exact reached

end Telecine.Lookahead
