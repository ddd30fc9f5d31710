import Mathlib.Data.List.Infix
import Telecine.Proofs.Lookahead.Histories

/-! Nothing of a feed is lost, told twice or told out of order, whatever the history. What was answered
and what is still held make up a beginning of it, its end is told after the last picture and stays told,
and a consumer that asks for whole frames of sound is given whole frames. -/
namespace Telecine.Lookahead
open Readahead

def Answer.shown : Answer → List Picture
  | .picture (.ok next) => [next]
  | _ => []

def Answer.heard : Answer → List Float32
  | .sound (.ok (buffer, _)) real => buffer.take real
  | _ => []

def instants (mix : Mix) (items : List Item) : List (List Float32) :=
  items.flatMap fun
    | .picture _ => []
    | .sound sound => (List.range sound.frames).map fun f =>
      (mix.apply sound).channels.map (·.getD f 0)

structure Faithful (feed : Feed) (mix : Mix) (capacity : Nat) (answers : List Answer)
    (now : Readahead) : Prop where
  shown : answers.flatMap Answer.shown ++ now.queue <+: pictures feed.items
  heard : answers.flatMap Answer.heard ++ now.ring.toList <+: samples mix feed.items
  padded : ∀ buffer short real, .sound (.ok (buffer, short)) real ∈ answers →
    real ≤ buffer.length ∧ buffer.drop real = List.replicate (buffer.length - real) 0
  bounded : now.queue.length ≤ max capacity 1
  ended : ∀ before reason after, answers = before ++ .picture (.error reason) :: after →
    reason ≠ .notYet →
    reason = feed.outcome.getD .died ∧ before.flatMap Answer.shown = pictures feed.items ∧
      ∀ answer, .picture answer ∈ after → answer = .error reason
  whole : 0 < mix.outputs →
    (∀ buffer short real, .sound (.ok (buffer, short)) real ∈ answers →
      mix.outputs ∣ buffer.length) →
    ∀ before buffer short real after,
      answers = before ++ .sound (.ok (buffer, short)) real :: after →
      mix.outputs ∣ real ∧ ∃ first, (before.flatMap Answer.heard).length = first * mix.outputs ∧
        ∀ k < real, buffer[k]? =
          (instants mix feed.items)[first + k / mix.outputs]?.bind (·[k % mix.outputs]?)

section Instants
variable {mix : Mix} {items : List Item}

theorem flattenAt {α : Type} {rows : List (List α)} {width : Nat}
    (even : ∀ row ∈ rows, row.length = width) (some : 0 < width) (n : Nat) :
    rows.flatten[n]? = rows[n / width]?.bind (·[n % width]?) := by
  induction rows generalizing n with
  | nil => simp
  | cons row rows ih =>
    have size := even row List.mem_cons_self
    rw [List.flatten_cons]
    rcases Nat.lt_or_ge n width with low | high
    · rw [List.getElem?_append_left (by omega), Nat.div_eq_of_lt low, Nat.mod_eq_of_lt low]
      rfl
    · obtain ⟨m, rfl⟩ := Nat.exists_eq_add_of_le' high
      rw [List.getElem?_append_right (by omega), size, Nat.add_sub_cancel,
        ih fun row member => even row (List.mem_cons_of_mem _ member), Nat.add_div_right _ some,
        Nat.add_mod_right]
      rfl

theorem wholeMin {width a b : Nat} (left : width ∣ a) (right : width ∣ b) : width ∣ min a b := by
  rcases Nat.le_total a b with le | le
  · rwa [Nat.min_eq_left le]
  · rwa [Nat.min_eq_right le]

theorem instantWidth : ∀ row ∈ instants mix items, row.length = mix.outputs := by
  intro row member
  obtain ⟨item, _, member⟩ := List.mem_flatMap.mp member
  cases item with
  | picture => cases member
  | sound sound =>
    obtain ⟨f, _, rfl⟩ := List.mem_map.mp member
    simp

theorem samplesInstants (mix : Mix) (items : List Item) :
    samples mix items = (instants mix items).flatten := by
  induction items with
  | nil => rfl
  | cons item items ih =>
    cases item with
    | picture picture => simpa [instants] using ih
    | sound sound =>
      rw [samplesSound, ih]
      simp [instants, Sound.interleaved, List.flatMap_def]

theorem samplesLength (mix : Mix) (items : List Item) :
    (samples mix items).length = (instants mix items).length * mix.outputs := by
  have widths : (instants mix items).map List.length =
      List.replicate (instants mix items).length mix.outputs :=
    List.map_eq_replicate_iff.mpr instantWidth
  rw [samplesInstants, List.length_flatten, widths, List.sum_replicate_nat]

theorem samplesWhole (mix : Mix) (items : List Item) :
    mix.outputs ∣ (samples mix items).length := by
  rw [samplesLength]
  exact Nat.dvd_mul_left ..

end Instants

theorem silencedFront (samples : List Float32) (needed size : Nat) :
    (silenced samples needed size).take (min needed samples.length) = samples.take needed := by
  rw [silenced, List.take_append_of_le_length (by simp), List.take_take]
  simp [List.take_eq_take_min]

theorem silencedRest (samples : List Float32) (needed size : Nat) :
    (silenced samples needed size).drop (min needed samples.length) =
      List.replicate (size - min needed samples.length) 0 := by
  rw [silenced, ← List.length_take, List.drop_left]

theorem callGives (s : Readahead) (c : Call) (taken : Taken) :
    (call s c).1.shown ++ (call s c).2.queue = s.queue ∧
      (call s c).1.heard ++ (call s c).2.ring.toList = s.ring.toList ∧
      (taken.add (call s c).1).pictures = taken.pictures + (call s c).1.shown.length ∧
      (taken.add (call s c).1).samples = taken.samples + (call s c).1.heard.length := by
  cases c with
  | picture =>
    cases queue : s.queue with
    | nil => simp [call, takePicture, queue, Answer.shown, Answer.heard, Taken.add]
    | cons picture rest => simp [call, takePicture, queue, Answer.shown, Answer.heard, Taken.add]
  | sound frames size =>
    cases hn : s.needed frames size with
    | error fault => simp [soundFault hn, Answer.shown, Answer.heard, Taken.add]
    | ok needed => simp [soundCall hn, Answer.shown, Answer.heard, Taken.add, silencedFront]
  | trouble => simp [call, takeFailure, Answer.shown, Answer.heard, Taken.add]

section Histories
variable {feed : Feed} {mix : Mix} {capacity : Nat} {taken : Taken} {handed : List Item}
  {answers before : List Answer} {now : Readahead}

theorem takeMore {α : Type} {all front : List α} {n : Nat} (next : front <+: all.drop n) :
    all.take n ++ front = all.take (n + front.length) := by
  rw [List.take_add, ← List.prefix_iff_eq_take.mp next]

theorem historyTaken (h : History (start feed mix capacity) answers now) :
    answers.flatMap Answer.shown = (pictures feed.items).take (tally answers).pictures ∧
      answers.flatMap Answer.heard = (samples mix feed.items).take (tally answers).samples := by
  induction h with
  | start => exact ⟨by simp [Taken.none], by simp [Taken.none]⟩
  | decoder _ _ ih => exact ih
  | @consumer answers now so ask _ ih =>
    obtain ⟨handed, reached⟩ := historyReached so
    obtain ⟨queue, ring, pictured, sounded⟩ := callGives now ask.call (tally answers)
    have shown : (call now ask.call).1.shown <+: (pictures feed.items).drop (tally answers).pictures :=
      .trans ⟨_, queue.trans reached.queue⟩
        (List.IsPrefix.drop (picturesPrefix (handedPrefix reached)) _)
    have heard : (call now ask.call).1.heard <+:
        (samples mix feed.items).drop (tally answers).samples :=
      .trans ⟨_, ring.trans reached.ring⟩
        (List.IsPrefix.drop (samplesPrefix mix (handedPrefix reached)) _)
    simp only [List.flatMap_append, List.flatMap_singleton, tallySnoc, pictured, sounded, ih.1, ih.2]
    exact ⟨takeMore shown, takeMore heard⟩

theorem restPrefix {α : Type} {front all : List α} {n : Nat} (within : front <+: all)
    (few : n ≤ front.length) : all.take n ++ front.drop n <+: all := by
  obtain ⟨rest, rfl⟩ := within
  rw [List.take_append_of_le_length few, List.take_append_drop]
  exact List.prefix_append ..

theorem endTold (h : Reached feed mix capacity taken handed now)
    (gone : now.decoder = .gone) (queue : now.queue = []) : now.takePicture.1 = .error (feed.outcome.getD .died) := by
  have stage := h.stage
  simp only [Stage, gone] at stage
  simp [takePicture, queue, isGone, gone, stage.1]

theorem finalTold {c : Call} {reason : Outage} (told : (call now c).1 = .picture (.error reason))
    (final : reason ≠ .notYet) : c = .picture ∧ now.queue = [] ∧ now.decoder = .gone := by
  cases c with
  | picture =>
    simp only [call, Answer.picture.injEq] at told
    cases queue : now.queue with
    | nil => cases gone : now.decoder <;> simp_all [takePicture, isGone]
    | cons => simp [takePicture, queue] at told
  | sound frames size => cases hn : now.takeSound frames size <;> simp [call, hn] at told
  | trouble => simp [call] at told

theorem callDecoder (s : Readahead) (c : Call) : (call s c).2.decoder = s.decoder := by
  cases c with
  | picture => cases queue : s.queue <;> simp [call, takePicture, queue]
  | sound frames size =>
    cases hn : s.needed frames size with
    | error fault => rw [soundFault hn]
    | ok needed => rw [soundCall hn]
  | trouble => rfl

theorem toldGone (h : History (start feed mix capacity) answers now) {reason : Outage}
    (told : .picture (.error reason) ∈ answers) (final : reason ≠ .notYet) :
    now.decoder = .gone := by
  induction h with
  | start => cases told
  | decoder _ step ih => simp [advance, ih told] at step
  | consumer _ ask _ ih =>
    rw [callDecoder]
    rcases List.mem_append.mp told with earlier | last
    · exact ih earlier
    · exact (finalTold (List.mem_singleton.mp last).symm final).2.2

theorem historyEnded {reason : Outage} {after : List Answer}
    (h : History (start feed mix capacity) (before ++ .picture (.error reason) :: after) now)
    (final : reason ≠ .notYet) :
    reason = feed.outcome.getD .died ∧ before.flatMap Answer.shown = pictures feed.items ∧
      ∀ answer, .picture answer ∈ after → answer = .error reason := by
  obtain ⟨earlier, ask, so, _, told⟩ := historySplit h
  obtain ⟨handed, reached⟩ := historyReached so
  obtain ⟨asked, queue, gone⟩ := finalTold told.symm final
  have all : (pictures feed.items).length ≤ (tally before).pictures :=
    List.getElem?_eq_none_iff.mp (noPictureLeft reached queue gone)
  have same : reason = feed.outcome.getD .died := by
    rw [asked, call, endTold reached gone queue] at told
    simpa using told
  have shown : before.flatMap Answer.shown = pictures feed.items := by
    rw [(historyTaken so).1, List.take_of_length_le all]
  refine ⟨same, shown, fun answer member => ?_⟩
  obtain ⟨front, rest, rfl⟩ := List.append_of_mem member
  rw [← List.cons_append, ← List.append_assoc] at h
  obtain ⟨later, ask, so, _, told⟩ := historySplit h
  obtain ⟨handed, reached⟩ := historyReached so
  have gone := toldGone so (by simp) final
  have count := congrArg List.length (historyTaken so).1
  simp only [List.flatMap_append, shown, List.length_append, List.length_take] at count
  have queue : later.queue = [] := by
    rw [reached.queue, goneHanded reached gone, List.drop_eq_nil_iff]
    omega
  cases asked : ask.call with
  | picture =>
    rw [asked, call, endTold reached gone queue, ← same] at told
    simpa using told
  | sound frames size =>
    rw [asked] at told
    cases hn : later.takeSound frames size <;> simp [call, hn] at told
  | trouble => simp [asked, call] at told

theorem soundTold (h : Reached feed mix capacity taken handed now) {c : Call} {buffer : List Float32}
    {short : Bool} {real : Nat} (told : (call now c).1 = .sound (.ok (buffer, short)) real) :
    ∃ frames, FitsWord64 (frames * mix.outputs) ∧ c = .sound frames buffer.length ∧
      real = min (min (frames * mix.outputs) buffer.length) now.ring.toList.length ∧
      buffer = silenced now.ring.toList (min (frames * mix.outputs) buffer.length) buffer.length := by
  cases c with
  | sound frames size =>
    by_cases fits : FitsWord64 (frames * mix.outputs)
    · have needed := neededExact h size fits
      rw [soundCall needed] at told
      simp only [Answer.sound.injEq, Except.ok.injEq, Prod.mk.injEq] at told
      obtain ⟨⟨rfl, rfl⟩, rfl⟩ := told
      rw [silencedLength _ (neededWithin needed)]
      exact ⟨frames, fits, rfl, rfl, rfl⟩
    · rw [soundFault (neededFault h size fits)] at told
      simp at told
  | picture => simp [call] at told
  | trouble => simp [call] at told

theorem historyPadded {buffer : List Float32} {short : Bool} {real : Nat}
    (h : History (start feed mix capacity) answers now)
    (told : .sound (.ok (buffer, short)) real ∈ answers) :
    real ≤ buffer.length ∧ buffer.drop real = List.replicate (buffer.length - real) 0 := by
  obtain ⟨before, after, rfl⟩ := List.append_of_mem told
  obtain ⟨earlier, ask, so, _, told⟩ := historySplit h
  obtain ⟨handed, reached⟩ := historyReached so
  obtain ⟨frames, _, _, count, same⟩ := soundTold reached told.symm
  have rest := silencedRest earlier.ring.toList (min (frames * mix.outputs) buffer.length)
    buffer.length
  rw [← same, ← count] at rest
  exact ⟨by omega, rest⟩

theorem ringWhole (h : Reached feed mix capacity taken handed now)
    (even : mix.outputs ∣ taken.samples) : mix.outputs ∣ now.ring.toList.length := by
  rw [h.ring, List.length_drop]
  exact Nat.dvd_sub (samplesWhole mix handed) even

theorem soundWhole (h : Reached feed mix capacity taken handed now)
    (even : mix.outputs ∣ taken.samples) {c : Call} {buffer : List Float32} {short : Bool} {real : Nat}
    (told : (call now c).1 = .sound (.ok (buffer, short)) real)
    (size : mix.outputs ∣ buffer.length) : mix.outputs ∣ real := by
  obtain ⟨frames, _, _, count, _⟩ := soundTold h told
  rw [count]
  exact wholeMin (wholeMin (Nat.dvd_mul_left ..) size) (ringWhole h even)

theorem historyWhole (h : History (start feed mix capacity) answers now)
    (sizes : ∀ buffer short real, .sound (.ok (buffer, short)) real ∈ answers →
      mix.outputs ∣ buffer.length) : mix.outputs ∣ (tally answers).samples := by
  induction h with
  | start => exact Nat.dvd_zero _
  | decoder _ _ ih => exact ih sizes
  | @consumer answers now so ask _ ih =>
    have even := ih fun buffer short real member =>
      sizes buffer short real (List.mem_append_left _ member)
    obtain ⟨handed, reached⟩ := historyReached so
    rw [tallySnoc, (callGives now ask.call (tally answers)).2.2.2]
    refine Nat.dvd_add even ?_
    cases told : (call now ask.call).1 with
    | picture | trouble => simp [Answer.heard]
    | sound answer real =>
      cases answer with
      | error fault => simp [Answer.heard]
      | ok answer =>
        obtain ⟨buffer, short⟩ := answer
        have size := sizes buffer short real (by simp [told])
        rw [Answer.heard, List.length_take]
        exact wholeMin (soundWhole reached even told size) size

theorem historyInstants {buffer : List Float32} {short : Bool} {real : Nat} {after : List Answer}
    (some : 0 < mix.outputs)
    (h : History (start feed mix capacity) (before ++ .sound (.ok (buffer, short)) real :: after) now)
    (sizes : ∀ buffer' short' real',
      .sound (.ok (buffer', short')) real' ∈ before ++ .sound (.ok (buffer, short)) real :: after →
        mix.outputs ∣ buffer'.length) :
    mix.outputs ∣ real ∧ ∃ first, (before.flatMap Answer.heard).length = first * mix.outputs ∧
      ∀ k < real, buffer[k]? =
        (instants mix feed.items)[first + k / mix.outputs]?.bind (·[k % mix.outputs]?) := by
  obtain ⟨earlier, ask, so, _, told⟩ := historySplit h
  obtain ⟨handed, reached⟩ := historyReached so
  have even := historyWhole so fun buffer' short' real' member =>
    sizes buffer' short' real' (List.mem_append_left _ member)
  have size := sizes buffer short real (by simp)
  have count : (before.flatMap Answer.heard).length = (tally before).samples := by
    have within := (samplesPrefix mix (handedPrefix reached)).length_le
    rw [(historyTaken so).2, List.length_take, Nat.min_eq_left (reached.heard.trans within)]
  refine ⟨soundWhole reached even told.symm size, ?_⟩
  obtain ⟨first, position⟩ := even
  rw [Nat.mul_comm] at position
  refine ⟨first, count.trans position, fun k low => ?_⟩
  obtain ⟨frames, _, _, real, same⟩ := soundTold reached told.symm
  have inRing : k < earlier.ring.toList.length := by omega
  have ahead : first * mix.outputs + k < (samples mix handed).length := by
    rw [reached.ring, List.length_drop] at inRing
    omega
  calc buffer[k]?
      = earlier.ring.toList[k]? := by
        rw [same, silenced, List.getElem?_append_left (by simp; omega),
          List.getElem?_take_of_lt (by omega)]
    _ = (samples mix handed)[first * mix.outputs + k]? := by
        rw [reached.ring, List.getElem?_drop, position]
    _ = (samples mix feed.items)[first * mix.outputs + k]? := by
        obtain ⟨rest, same⟩ := samplesPrefix mix (handedPrefix reached)
        rw [← same, List.getElem?_append_left ahead]
    _ = _ := by
        rw [samplesInstants, flattenAt instantWidth some, Nat.add_comm,
          Nat.add_mul_div_right _ _ some, Nat.add_mul_mod_self_right, Nat.add_comm]

end Histories

theorem historyFaithful {feed : Feed} {mix : Mix} {capacity : Nat} {answers : List Answer}
    {now : Readahead} (h : History (start feed mix capacity) answers now) :
    Faithful feed mix capacity answers now := by
  obtain ⟨handed, reached⟩ := historyReached h
  refine ⟨?_, ?_, fun _ _ _ => historyPadded h, ?_, ?_, ?_⟩
  · rw [(historyTaken h).1, reached.queue]
    exact restPrefix (picturesPrefix (handedPrefix reached)) reached.shown
  · rw [(historyTaken h).2, reached.ring]
    exact restPrefix (samplesPrefix mix (handedPrefix reached)) reached.heard
  · have bounded := reached.bounded
    rw [queueLength reached]
    omega
  · rintro before reason after rfl final
    exact historyEnded h final
  · rintro some sizes before buffer short real after rfl
    exact historyInstants some h sizes

theorem soundBetweenFaithful :
    ∃ first second heard now,
      let answers := [.picture (.error .notYet), .picture (.ok first), .picture (.ok second),
        .picture (.error .finished), heard]
      History (start soundBetween (.identity 1) 1) answers now ∧
        Faithful soundBetween (.identity 1) 1 answers now :=
  have ahead {answers now} (h : History (start soundBetween (.identity 1) 1) answers now) :=
    historyAdvances h (runAheadAdvances now)
  have first := (ahead (.consumer .start .glance rfl)).consumer (.await .picture) rfl
  have second := (ahead first).consumer (.await .picture) rfl
  have ended := (ahead second).consumer (.await .picture) rfl
  have ready := stuckAtOnce rfl (historyReached ended).choose_spec rfl (.sound 1 1)
  have heard := ended.consumer (.await (.sound 1 1)) ready
  ⟨_, _, _, _, heard, historyFaithful heard⟩

end Telecine.Lookahead
