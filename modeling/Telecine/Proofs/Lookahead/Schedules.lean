import Telecine.Proofs.Lookahead.Timing

/-! All orders of the decoder's steps and the consumer's calls, against the one in which the decoder is
always as far as it can be. The pictures are the same in each. The sound is the same in all of them
exactly for the calls that are `Paced`: for others there is a decoder that steps only while the consumer
waits for it, and it falls short at the first request that is not. -/
namespace Telecine.Lookahead
open Readahead

section Agreement
variable {feed : Feed} {mix : Mix} {capacity : Nat} {outcome : Outage} {taken : Taken}
  {handed handed' : List Item} {s s' : Readahead} {calls : List Call} {answers : List Answer}

theorem pacedAgrees (tells : feed.outcome = some outcome) (run : Interleaved s calls answers)
    (h : Reached feed mix capacity taken handed s) (h' : Reached feed mix capacity taken handed' s')
    (plain : .trouble ∉ calls) (paced : Paced feed mix capacity taken calls) :
    answers = ahead s' calls := by
  induction run generalizing taken handed handed' s' with
  | done => rfl
  | decoder step rest ih =>
    obtain ⟨more, _, reached⟩ := advanceReached h step
    exact ih reached h' plain paced
  | @consumer s c calls answers ready rest ih =>
    have left := callReached h c
    have right := callReached (runAheadReached h') c
    have later : .trouble ∉ calls := fun inside => plain (List.mem_cons_of_mem _ inside)
    cases c with
    | picture =>
      rw [readyPicture tells h ready, addPicture] at left
      rw [aheadPicture tells h', addPicture] at right
      rw [ahead, readyPicture tells h ready, aheadPicture tells h', ih left right later paced]
    | sound frames size =>
      obtain ⟨here, paced⟩ := paced
      rw [pacedSound h ready here, realSamples, supplyLength] at left
      rw [aheadSound h', realSamples, supplyLength] at right
      rw [ahead, pacedSound h ready here, aheadSound h', ih left right later paced]
    | trouble => exact absurd List.mem_cons_self plain

theorem soundUnseen (s : Readahead) (frames size : Nat) :
    (call s (.sound frames size)).1.picture? = none ∧
      ∀ taken : Taken, (taken.add (call s (.sound frames size)).1).pictures = taken.pictures := by
  cases hn : s.needed frames size with
  | ok needed => simp [soundCall hn, Answer.picture?, Taken.add]
  | error fault => simp [soundFault hn, Answer.picture?, Taken.add]

theorem sameSights {taken' : Taken} (tells : feed.outcome = some outcome)
    (run : Interleaved s calls answers) (h : Reached feed mix capacity taken handed s)
    (h' : Reached feed mix capacity taken' handed' s') (same : taken.pictures = taken'.pictures) :
    answers.filterMap Answer.picture? = (ahead s' calls).filterMap Answer.picture? := by
  induction run generalizing taken taken' handed handed' s' with
  | done => rfl
  | decoder step rest ih =>
    obtain ⟨more, _, reached⟩ := advanceReached h step
    exact ih reached h' same
  | @consumer s c calls answers ready rest ih =>
    have left := callReached h c
    have right := callReached (runAheadReached h') c
    cases c with
    | picture =>
      rw [readyPicture tells h ready] at left
      rw [aheadPicture tells h'] at right
      rw [ahead, readyPicture tells h ready, aheadPicture tells h', same]
      refine congrArg (_ :: ·) (ih left right ?_)
      rw [addPicture, addPicture, same]
      split <;> simp [same]
    | sound frames size =>
      have unseen := soundUnseen s frames size
      have unseen' := soundUnseen s'.runAhead frames size
      rw [ahead, List.filterMap_cons_none unseen.1, List.filterMap_cons_none unseen'.1]
      exact ih left right (by rw [unseen.2, unseen'.2, same])
    | trouble => exact ih left right same

end Agreement

theorem advancesInterleaved {s last calls answers} (run : Advances s last)
    (rest : Interleaved last calls answers) : Interleaved s calls answers := by
  induction run with
  | refl => exact rest
  | step first run ih => exact .decoder first (ih rest)

theorem aheadInterleaved {feed mix capacity outcome taken handed s}
    (tells : feed.outcome = some outcome) (h : Reached feed mix capacity taken handed s)
    (calls : List Call) : Interleaved s calls (ahead s calls) := by
  induction calls generalizing taken handed s with
  | nil => exact .done s
  | cons c calls ih =>
    have reached := runAheadReached h
    exact advancesInterleaved (runAheadAdvances s)
      (.consumer (stuckAtOnce tells reached (runAheadStuck s) c) (ih (callReached reached c)))

/-- The sound of a decoder that steps only while it is waited for: it never goes past the picture that
fills the queue. -/
def Lagging (feed : Feed) (mix : Mix) (capacity : Nat) (taken : Taken) (handed : List Item) : Prop :=
  (samples mix handed).length ≤
    (samples mix (lead (taken.pictures + max capacity 1 - 1) feed.items)).length

section Lag
variable {feed : Feed} {mix : Mix} {capacity : Nat} {outcome : Outage} {taken : Taken}
  {handed more : List Item} {s next last : Readahead}

theorem laggingStep (h : Reached feed mix capacity taken handed s)
    (lag : Lagging feed mix capacity taken handed) (room : s.hasRoom = true)
    (within : more <+: held s) (reached : Reached feed mix capacity taken (handed ++ more) next) :
    Lagging feed mix capacity taken (handed ++ more) := by
  have few : (pictures handed).length ≤ taken.pictures + max capacity 1 - 1 := by
    have short := (queueShort h).mp room
    have length := queueLength h
    omega
  have silent : samples mix (handed ++ more) = samples mix handed ∨
      pictures (handed ++ more) = pictures handed := by
    cases hd : s.decoder with
    | holding item =>
      simp only [held, hd] at within
      rcases List.prefix_cons_iff.mp within with rfl | ⟨tail, rfl, nothing⟩
      · exact .inl (by simp)
      · cases List.prefix_nil.mp nothing
        cases item with
        | picture picture => exact .inl (by simp)
        | sound sound => exact .inr (by simp)
    | idle | stopping reason | gone =>
      simp only [held, hd] at within
      cases List.prefix_nil.mp within
      exact .inl (by simp)
  unfold Lagging at lag ⊢
  rcases silent with unheard | unseen
  · rwa [unheard]
  · exact (samplesPrefix mix (prefixOfLead (handedPrefix reached) (by rwa [unseen]))).length_le

theorem lazyRun (tells : feed.outcome = some outcome) (c : Call) (run : Advances s last)
    (stuck : last.advance = none) (h : Reached feed mix capacity taken handed s)
    (lag : Lagging feed mix capacity taken handed) :
    ∃ now handed, Advances s now ∧ Reached feed mix capacity taken handed now ∧
      Lagging feed mix capacity taken handed ∧ waits now c = false := by
  -- The decoder stops stepping as soon as the consumer need not wait, so it only steps with room.
  induction run generalizing handed with
  | refl s => exact ⟨s, handed, .refl s, h, lag, stuckAtOnce tells h stuck c⟩
  | @step s next last first rest ih =>
    cases ready : waits s c with
    | false => exact ⟨s, handed, .refl s, h, lag, ready⟩
    | true =>
      obtain ⟨more, within, reached⟩ := advanceReached h first
      obtain ⟨now, handed, run, result⟩ :=
        ih stuck reached (laggingStep h lag (waitsRoom h ready) within reached)
      exact ⟨now, handed, .step first run, result⟩

theorem lazyRing (h : Reached feed mix capacity taken handed s)
    (lag : Lagging feed mix capacity taken handed) {frames size : Nat}
    (ready : waits s (.sound frames size) = false) :
    min (wanted mix frames size) s.ring.toList.length =
      min (wanted mix frames size)
        (stock feed mix taken (taken.pictures + max capacity 1 - 1)) := by
  have least := readySound h ready
  have length := ringLength h
  unfold Lagging at lag
  unfold stock at least ⊢
  omega

theorem laggingMono {taken' : Taken} (lag : Lagging feed mix capacity taken handed)
    (more : taken.pictures ≤ taken'.pictures) : Lagging feed mix capacity taken' handed := by
  have longer := (samplesPrefix mix (leadMono (n := taken.pictures + max capacity 1 - 1)
    (m := taken'.pictures + max capacity 1 - 1) (by omega) feed.items)).length_le
  exact Nat.le_trans lag longer

/-- The two agree up to a request for sound. There one is told that it ran short, and has silence where
the other goes on with samples of the feed. -/
def FallsShort (answers others : List Answer) : Prop :=
  ∃ before buffer fuller short less more after rest,
    answers = before ++ .sound (.ok (buffer, true)) less :: after ∧
      others = before ++ .sound (.ok (fuller, short)) more :: rest ∧
      less < more ∧ buffer = fuller.take less ++ List.replicate (fuller.length - less) 0

theorem fallsLater {answers others : List Answer} (falls : FallsShort answers others) (answer : Answer) :
    FallsShort (answer :: answers) (answer :: others) := by
  obtain ⟨before, buffer, fuller, short, less, more, after, rest, rfl, rfl, fewer, same⟩ := falls
  exact ⟨answer :: before, buffer, fuller, short, less, more, after, rest, rfl, rfl, fewer, same⟩

theorem fallsApart {answers others : List Answer} (falls : FallsShort answers others) :
    answers ≠ others := by
  obtain ⟨before, buffer, fuller, short, less, more, after, rest, rfl, rfl, fewer, _⟩ := falls
  intro same
  cases List.append_cancel_left same
  exact Nat.lt_irrefl _ fewer

theorem unpaced {handed' : List Item} {s' : Readahead} {calls : List Call}
    (tells : feed.outcome = some outcome) (h : Reached feed mix capacity taken handed s)
    (lag : Lagging feed mix capacity taken handed) (h' : Reached feed mix capacity taken handed' s')
    (plain : .trouble ∉ calls) (not : ¬Paced feed mix capacity taken calls) :
    ∃ answers, Interleaved s calls answers ∧ FallsShort answers (ahead s' calls) := by
  induction calls generalizing taken handed handed' s s' with
  | nil => exact absurd trivial not
  | cons c calls ih =>
    obtain ⟨now, handed, run, reached, lag, ready⟩ :=
      lazyRun tells c (runAheadAdvances s) (runAheadStuck s) h lag
    have left := callReached reached c
    have right := callReached (runAheadReached h') c
    have kept := laggingMono lag (addPictures taken (call now c).1)
    have later : .trouble ∉ calls := fun inside => plain (List.mem_cons_of_mem _ inside)
    have rest (not : ¬Paced feed mix capacity (taken.add (call now c).1) calls)
        (same : (call now c).1 = (call s'.runAhead c).1) :
        ∃ answers, Interleaved s (c :: calls) answers ∧ FallsShort answers (ahead s' (c :: calls)) := by
      rw [← same] at right
      obtain ⟨answers, after, falls⟩ := ih left kept right later not
      refine ⟨_, advancesInterleaved run (.consumer ready after), ?_⟩
      rw [ahead, ← same]
      exact fallsLater falls _
    cases c with
    | picture =>
      have told := readyPicture tells reached ready
      refine rest ?_ (told.trans (aheadPicture tells h').symm)
      rwa [told, addPicture]
    | sound frames size =>
      have heard := soundAnswer reached frames size
      have heard' := aheadSound h' frames size
      have front := ringPrefix reached
      have length := lazyRing reached lag ready
      have longer := supplyLength feed mix capacity taken
      by_cases here : min (wanted mix frames size)
          (stock feed mix taken (taken.pictures + max capacity 1 - 1)) =
        min (wanted mix frames size) (stock feed mix taken (taken.pictures + max capacity 1))
      · refine rest ?_ ?_
        · rw [heard, realSamples, length, here]
          exact fun paced => not ⟨here, paced⟩
        · rw [heard, heard', closedSoundPrefix front (by rw [length, longer, here])]
      · have within := front.length_le
        have fewer : min (wanted mix frames size) now.ring.toList.length <
            min (wanted mix frames size) (supply feed mix capacity taken).length := by omega
        obtain ⟨buffer, fuller, short, sooner, whole, less, same⟩ := closedSoundShort front fewer
        refine ⟨_, advancesInterleaved run (.consumer ready (aheadInterleaved tells left calls)), [],
          buffer, fuller, short, _, _, ahead (call now (.sound frames size)).2 calls,
          ahead (call s'.runAhead (.sound frames size)).2 calls, ?_, ?_, less, same⟩
        · rw [heard, sooner, List.nil_append]
        · rw [ahead, heard', whole, List.nil_append]
    | trouble => exact absurd List.mem_cons_self plain

end Lag

theorem timingFree {feed : Feed} {outcome : Outage} (tells : feed.outcome = some outcome) (mix : Mix)
    (capacity : Nat) {calls : List Call} (plain : .trouble ∉ calls) :
    let s := start feed mix capacity
    Interleaved s calls (ahead s calls) ∧
      (∀ answers, Interleaved s calls answers →
        answers.filterMap Answer.picture? = (ahead s calls).filterMap Answer.picture?) ∧
      ((∀ answers, Interleaved s calls answers → answers = ahead s calls) ↔
        Paced feed mix capacity .none calls) ∧
      (¬Paced feed mix capacity .none calls →
        ∃ answers, Interleaved s calls answers ∧ FallsShort answers (ahead s calls)) := by
  intro s
  have h := startReached feed mix capacity
  have falls := unpaced tells h (Nat.zero_le _) h plain
  refine ⟨aheadInterleaved tells h calls, fun answers run => sameSights tells run h h rfl, ⟨?_, ?_⟩,
    falls⟩
  · intro same
    by_contra not
    obtain ⟨answers, run, differ⟩ := falls not
    exact fallsApart differ (same answers run)
  · intro paced answers run
    exact pacedAgrees tells run h h plain paced

def pictureFirst : Feed :=
  .gives (.picture ⟨⟨0, 0, .empty⟩, .both, ⟨0⟩, false⟩) fun _ =>
    .gives (.sound ⟨1, [[1]]⟩) fun _ => .ends

theorem pictureFirstServed :
    pictureFirst.outcome = some .finished ∧ .trouble ∉ [Call.picture, .sound 1 1, .picture] ∧
      let s := start pictureFirst (.identity 1) 1
      let calls := [Call.picture, .sound 1 1, .picture]
      Interleaved s calls (ahead s calls) ∧
        (∀ answers, Interleaved s calls answers →
          answers.filterMap Answer.picture? = (ahead s calls).filterMap Answer.picture?) ∧
        ((∀ answers, Interleaved s calls answers → answers = ahead s calls) ↔
          Paced pictureFirst (.identity 1) 1 .none calls) ∧
        (¬Paced pictureFirst (.identity 1) 1 .none calls →
          ∃ answers, Interleaved s calls answers ∧ FallsShort answers (ahead s calls)) :=
  ⟨rfl, by decide, timingFree rfl _ _ (by decide)⟩

theorem silenceBeforeSound :
    ∃ now, Advances (start pictureFirst (.identity 1) 1) now ∧ now.decoder = .idle ∧
      waits now (.sound 1 1) = false ∧
      (call now (.sound 1 1)).1 = .sound (.ok ([0], true)) 0 ∧
      Interleaved (start pictureFirst (.identity 1) 1) [.sound 1 1] [.sound (.ok ([0], true)) 0] ∧
      ahead (start pictureFirst (.identity 1) 1) [.sound 1 1] = [.sound (.ok ([1], false)) 1] ∧
      [.sound (.ok ([0], true)) 0] ≠ ahead (start pictureFirst (.identity 1) 1) [.sound 1 1] := by
  have supplied : supply pictureFirst (.identity 1) 1 .none = [1] := by decide +kernel
  have told : ahead (start pictureFirst (.identity 1) 1) [.sound 1 1] =
      [.sound (.ok ([1], false)) 1] := by
    rw [ahead, aheadSound (startReached pictureFirst (.identity 1) 1), supplied]
    rfl
  refine ⟨_, .step rfl (.step rfl (.refl _)), rfl, rfl, rfl,
    .decoder rfl (.decoder rfl (.consumer rfl (.done _))), told, ?_⟩
  simp [told]

end Telecine.Lookahead
