import Telecine.Proofs.Transfer.Stops

/-! Where a run cannot tell the reel of a tick: after a reel in which no tick starts, and nowhere else. -/
namespace Telecine.Transfer
open Dialogue

def Missed (plan : Plan) (duration : Nat) : Prop :=
  ∃ reel ∈ plan.reels, (∀ m, reel.contains (tickStart duration m) = false) ∧
    ∃ n, reel.stop.ticks ≤ (tickStart duration n).ticks ∧
      (tickStart duration n).ticks < plan.length.ticks

def Astray (said : List Said) (result : Except Halt Summary) : Prop :=
  said.getLast? = some ⟨.interrupted, false⟩ ∧ ∃ halt, result = .error halt

structure Undisturbed (plan : Plan) (said : List Said) : Prop where
  begun : said ≠ []
  willing : ∀ e ∈ said, Willing plan.stereoscopic e

section Tick
variable {t : Transfer} {duration time : Time} {frames reel : Nat} {before after : Status} {halt : Halt}

theorem picturesAsk {α : Type} {set : FileSet} {count : Nat} {next : Unit → Act α} {said : List Said}
    {result : Except Halt α}
    (go : Goes (passPictures set (count + 1) >>= next) before said result after) :
    ∃ answer rest, said = ⟨.picture, answer⟩ :: rest := by
  have asks : Says (.ask before .picture _) said result after := go
  cases asks with
  | ask answer rest => exact ⟨answer, _, rfl⟩

theorem tickAstray : Goes (t.tick duration frames reel time) before [⟨.interrupted, false⟩]
      (.error halt) after ↔
    (t.reelAt reel time = .error halt ∨
      ∃ later, t.reelAt reel time = .ok later ∧ t.setOf later = .error halt) ∧ after = before := by
  rw [tickParts, goesAskOn .interrupted]
  constructor
  · intro h
    obtain ⟨stop, rest, same, onward⟩ := h
    obtain ⟨rfl, rfl⟩ : stop = false ∧ rest = [] := by simpa [eq_comm] using same
    simp only [Bool.false_eq_true, ↓reduceIte, pass] at onward
    cases found : t.reelAt reel time with
    | error other =>
      rw [found] at onward
      obtain ⟨_, same, rfl⟩ := goesKnownError.mp onward
      cases same
      exact ⟨.inl rfl, rfl⟩
    | ok later =>
      rw [found, goesKnownOk] at onward
      cases selected : t.setOf later with
      | error other =>
        rw [selected] at onward
        obtain ⟨_, same, rfl⟩ := goesKnownError.mp onward
        cases same
        exact ⟨.inr ⟨later, rfl, selected⟩, rfl⟩
      | ok set =>
        obtain ⟨count, more⟩ : ∃ count, picturesPerTick t.plan = count + 1 := by
          unfold picturesPerTick
          split <;> exact ⟨_, rfl⟩
        rw [selected, goesKnownOk, more] at onward
        obtain ⟨answer, rest, asked⟩ := picturesAsk onward
        cases asked
  · intro h
    obtain ⟨lost | ⟨later, found, lost⟩, rfl⟩ := h
    · refine ⟨false, [], rfl, ?_⟩
      simp only [Bool.false_eq_true, ↓reduceIte, pass, lost]
      exact goesKnownError.mpr ⟨rfl, rfl, rfl⟩
    · refine ⟨false, [], rfl, ?_⟩
      simp only [Bool.false_eq_true, ↓reduceIte, pass, found, goesKnownOk, lost]
      exact goesKnownError.mpr ⟨rfl, rfl, rfl⟩

end Tick

section Course
variable {t : Transfer} {frames limit n reel : Nat} {said : List Said} {halt : Halt}
  {ticks : List (Tick (t.plan.soundChannels * frames))}

theorem courseVisited (accepted : Accepted t.plan t.sets) (several : 1 < t.sets.length)
    {duration : Nat} (course : Course t duration frames reel n ticks)
    (cursor : Cursor t duration n reel) : ∀ k < ticks.length, ∃ (later : Nat) (p : Period),
      t.plan.reels[later]? = some p ∧ p.contains (tickStart duration (n + k)) = true ∧
        ∀ (j : Nat) (q : Period), j ≤ later → t.plan.reels[j]? = some q →
          ∃ m, q.contains (tickStart duration m) = true := by
  induction course with
  | ended => simp
  | @tick reel later n tick ticks more _ found _ _ _ _ ih =>
    rcases reelAtCursor accepted cursor more with ⟨other, found', cursor'⟩ | ⟨_, _, lost⟩
    · obtain rfl := Except.ok.inj (found.symm.trans found')
      intro k low
      cases k with
      | zero =>
        rcases reelAtFound found with ⟨single, _⟩ | ⟨_, p, there, inside⟩
        · omega
        · exact ⟨later, p, there, inside, cursor'.visited several⟩
      | succ k =>
        have rest := ih cursor' k (Nat.lt_of_succ_lt_succ low)
        rwa [Nat.add_assoc, Nat.add_comm 1] at rest
    · cases found.symm.trans lost

theorem courseMissesNone (accepted : Accepted t.plan t.sets) (several : 1 < t.sets.length)
    (lasts : 0 < t.plan.rates.pictureTicks)
    (course : Course t t.plan.rates.pictureTicks frames 0 0 ticks) :
    ¬Missed t.plan t.plan.rates.pictureTicks := by
  rintro ⟨missed, member, empty, n, past, inside⟩
  obtain ⟨i, there⟩ := List.mem_iff_getElem?.mp member
  have low : n < ticks.length := courseCount course ▸ (startInside lasts).mp inside
  have some := Int.lt_of_le_of_lt (startNonneg _ n) inside
  obtain ⟨later, p, here, within, visited⟩ :=
    courseVisited accepted several course (cursorStart accepted some) n low
  rw [Nat.zero_add] at within
  rcases Nat.lt_or_ge later i with before | after
  · have apart := List.pairwise_iff_getElem.mp (Period.partitionApart accepted.parts) later i
      (List.getElem?_eq_some_iff.mp here).1 (List.getElem?_eq_some_iff.mp there).1 before
    rw [(List.getElem?_eq_some_iff.mp here).2, (List.getElem?_eq_some_iff.mp there).2] at apart
    have full := Period.partitionFull accepted.parts missed member
    have bounds := Period.containsBounds.mp within
    simp only [Period.isEmpty, decide_eq_false_iff_not] at full
    omega
  · obtain ⟨m, inside'⟩ := visited i missed after there
    rw [empty m] at inside'
    cases inside'

theorem departsEnd {stereoscopic : Bool} {first whole : List Said}
    (departs : Departs stereoscopic whole said halt) : (first ++ said).getLast? = said.getLast? := by
  obtain ⟨common, rest, last, rfl, rfl, leaves⟩ := departs
  refine List.getLast?_append_of_ne_nil _ ?_
  cases leaves <;> simp

theorem departsLast {stereoscopic : Bool} {whole : List Said}
    (departs : Departs stereoscopic whole said halt) : said.getLast? ≠ some ⟨.interrupted, false⟩ := by
  obtain ⟨common, rest, last, rfl, rfl, leaves⟩ := departs
  cases leaves <;> simp

theorem departsUnwilling {stereoscopic : Bool} {whole : List Said}
    (departs : Departs stereoscopic whole said halt) : ∃ e ∈ said, ¬Willing stereoscopic e := by
  obtain ⟨common, rest, last, rfl, rfl, leaves⟩ := departs
  obtain ⟨e, member, unwilling⟩ := leavesUnwilling leaves
  exact ⟨e, List.mem_append_right _ member, unwilling⟩

structure Strays (t : Transfer) (frames : Nat) (said : List Said) (halt : Halt) (i n : Nat)
    (ticks : List (Tick (t.plan.soundChannels * frames))) : Prop where
  skips : Skips t.plan t.plan.rates.pictureTicks i n
  reason : halt = .failed (.internal
    ("no reel contains " ++ (tickStart t.plan.rates.pictureTicks n).text))
  count : ticks.length = n
  fitting : Fitting t 0 ticks
  said : said = ⟨.stage "Encoding", ()⟩ ::
    (ticksSaid t.plan t.plan.rates.pictureTicks frames 0 ticks ++ [⟨.interrupted, false⟩])

theorem straysLast {i : Nat} (strays : Strays t frames said halt i n ticks) :
    said.getLast? = some ⟨.interrupted, false⟩ := by
  rw [strays.said, ← List.cons_append, List.getLast?_concat]

theorem stoppedCases (stopped : Stopped t frames limit said halt) :
    said = [] ∨
      (halt = .limit ∧ (tickStart t.plan.rates.pictureTicks limit).ticks < t.plan.length.ticks) ∨
      (1 < t.sets.length ∧ ∃ i n ticks, Strays t frames said halt i n ticks) ∨
      ((∃ e ∈ said, ¬Willing t.plan.stereoscopic e) ∧ said.getLast? ≠ some ⟨.interrupted, false⟩) := by
  have departed {first left whole : List Said} (departs : Departs t.plan.stereoscopic whole left halt) :
      (∃ e ∈ first ++ left, ¬Willing t.plan.stereoscopic e) ∧
        (first ++ left).getLast? ≠ some ⟨.interrupted, false⟩ := by
    obtain ⟨e, member, unwilling⟩ := departsUnwilling departs
    rw [departsEnd departs]
    exact ⟨⟨e, List.mem_append_right _ member, unwilling⟩, departsLast departs⟩
  cases stopped with
  | crowded => exact .inl rfl
  | ticks stops =>
    cases stops with
    | limit fitting count inside =>
      rw [Nat.zero_add, count] at inside
      exact .inr (.inl ⟨rfl, inside⟩)
    | @tick done _ _ fitting inside stops =>
      rw [Nat.zero_add] at inside stops
      cases stops with
      | astray several skips =>
        exact .inr (.inr (.inl ⟨several, _, _, done, skips, rfl, rfl, fitting, rfl⟩))
      | departs tick fits left =>
        rw [← List.cons_append]
        exact .inr (.inr (.inr (departed left)))
  | finish fitting count left =>
    rw [← List.cons_append]
    exact .inr (.inr (.inr (departed left)))
  | @putOff ticks failure fitting count =>
    rw [← List.cons_append]
    refine .inr (.inr (.inr ⟨⟨⟨.trouble, some failure⟩, by simp, by simp [Willing]⟩, ?_⟩))
    rw [List.getLast?_concat]
    simp

theorem stopsAstray (lasts : 0 < t.plan.rates.pictureTicks) (enough : t.plan.tickCount ≤ limit)
    (stopped : Stopped t frames limit said halt) (last : said.getLast? = some ⟨.interrupted, false⟩) :
    1 < t.sets.length ∧ ∃ i n ticks, Strays t frames said halt i n ticks := by
  rcases stoppedCases stopped with rfl | ⟨_, inside⟩ | strays | ⟨_, other⟩
  · cases last
  · exact absurd ((startInside lasts).mp inside) (Nat.not_lt.mpr enough)
  · exact strays
  · exact absurd last other

theorem stopsUndisturbed (stopped : Stopped t frames limit said halt)
    (undisturbed : Undisturbed t.plan said) :
    (halt = .limit ∧ (tickStart t.plan.rates.pictureTicks limit).ticks < t.plan.length.ticks) ∨
      1 < t.sets.length ∧ ∃ i n ticks, Strays t frames said halt i n ticks := by
  rcases stoppedCases stopped with none | limit | strays | ⟨⟨e, member, unwilling⟩, _⟩
  · exact absurd none undisturbed.begun
  · exact .inl limit
  · exact .inr strays
  · exact absurd (undisturbed.willing e member) unwilling

end Course

theorem countEnough {plan : Plan} (lasts : 0 < plan.rates.pictureTicks) :
    plan.tickCount ≤ plan.length.ticks.toNat := by
  by_contra more
  have inside := (startInside lasts).mpr (Nat.lt_of_not_le more)
  have whole : plan.length.ticks.toNat ≤ plan.length.ticks.toNat * plan.rates.pictureTicks :=
    Nat.le_mul_of_pos_right _ lasts
  simp only [tickStart] at inside
  omega

theorem skipsStart {plan : Plan} {duration i n : Nat} (skips : Skips plan duration i n)
    (lasts : 0 < duration) (parts : Period.partition plan.reels plan.length = true) :
    ∃ reel ∈ plan.reels, ¬(duration : Int) ∣ reel.start.ticks := by
  obtain ⟨reel, there, empty, _⟩ := skips.reel
  have member := List.mem_of_getElem? there
  refine ⟨reel, member, ?_⟩
  rintro ⟨m, whole⟩
  have begun : 0 ≤ m := by
    refine Int.nonneg_of_mul_nonneg_right (a := duration) ?_ (by omega)
    exact whole ▸ Period.partitionStart parts member
  obtain ⟨k, rfl⟩ := Int.eq_ofNat_of_zero_le begun
  have full := Period.partitionFull parts reel member
  have start : (tickStart duration k).ticks = reel.start.ticks := by
    rw [whole, Int.mul_comm]
    rfl
  have inside : reel.contains (tickStart duration k) = true := by
    simp only [Period.isEmpty, decide_eq_false_iff_not] at full
    exact Period.containsBounds.mpr (by omega)
  rw [empty k] at inside
  cases inside

section Play
variable {t : Transfer} {limit : Nat} {before after : Status} {said : List Said}
  {result : Except Halt Summary}

theorem playStrays (accepted : Accepted t.plan t.sets) (fresh : t.started = false)
    (lasts : 0 < t.plan.rates.pictureTicks)
    (fits : FitsInt64 (t.plan.length.ticks + t.plan.rates.pictureTicks))
    (length : before.length = t.plan.length) (enough : t.plan.tickCount ≤ limit)
    (go : Goes (t.play limit) before said result after) (astray : Astray said result) :
    1 < t.sets.length ∧ ∃ halt frames i n ticks, result = .error halt ∧
      t.plan.rates.soundPerPicture = .ok frames ∧ Strays t frames said halt i n ticks := by
  obtain ⟨last, halt, rfl⟩ := astray
  obtain ⟨frames, rate, stopped⟩ := playHalts accepted fresh fits length go
  obtain ⟨several, i, n, ticks, strays⟩ := stopsAstray lasts enough stopped last
  refine ⟨several, halt, frames, i, n, ticks, rfl, rate ?_, strays⟩
  rintro rfl
  cases last

theorem playMissed (accepted : Accepted t.plan t.sets) (fresh : t.started = false)
    (lasts : 0 < t.plan.rates.pictureTicks)
    (fits : FitsInt64 (t.plan.length.ticks + t.plan.rates.pictureTicks))
    (length : before.length = t.plan.length) (enough : t.plan.tickCount ≤ limit)
    (several : 1 < t.sets.length) (missed : Missed t.plan t.plan.rates.pictureTicks)
    (go : Goes (t.play limit) before said result after) (undisturbed : Undisturbed t.plan said) :
    Astray said result := by
  cases result with
  | error halt =>
    obtain ⟨frames, _, stopped⟩ := playHalts accepted fresh fits length go
    rcases stopsUndisturbed stopped undisturbed with ⟨_, inside⟩ | ⟨_, i, n, ticks, strays⟩
    · exact absurd ((startInside lasts).mp inside) (Nat.not_lt.mpr enough)
    · exact ⟨straysLast strays, halt, rfl⟩
  | ok summary =>
    obtain ⟨frames, ticks, _, course, _⟩ := playCourse accepted fresh length go
    exact absurd missed (courseMissesNone accepted several lasts course)

end Play

theorem cursorAstray {plan : Plan} {sets : List FileSet} {t : Transfer}
    (made : Transfer.new plan sets = .ok t) (lasts : 0 < plan.rates.pictureTicks)
    (fits : FitsInt64 (plan.length.ticks + plan.rates.pictureTicks)) {ω : Type}
    (surroundings : Surroundings (StateM ω)) (world : ω) {limit : Nat}
    (enough : t.enoughTicks ≤ limit) :
    let result := (t.run limit surroundings world).1.1
    let said := ((t.dialogue limit).trace surroundings.answer world).map Exchange.said
    (1 < sets.length → Undisturbed plan said →
        (Astray said result ↔ Missed plan plan.rates.pictureTicks)) ∧
      (Astray said result → 1 < sets.length ∧ ∃ halt frames i n ticks,
        result = .error halt ∧ plan.rates.soundPerPicture = .ok frames ∧
          Strays t frames said halt i n ticks) ∧
      ((∀ reel ∈ plan.reels, (plan.rates.pictureTicks : Int) ∣ reel.start.ticks) →
        ¬Astray said result) := by
  obtain ⟨accepted, rfl⟩ := newAccepted.mp made
  intro result said
  have go : Goes (play ⟨plan, sets, Status.new plan.rates.picture plan.length, false⟩ limit)
      (Status.new plan.rates.picture plan.length) said result _ :=
    traceSays surroundings.answer _ world
  have enough := Nat.le_trans (countEnough lasts) enough
  have strays := playStrays accepted rfl lasts fits rfl enough go
  refine ⟨fun several undisturbed => ⟨fun astray => ?_, fun missed => ?_⟩, strays,
    fun whole astray => ?_⟩
  · obtain ⟨_, _, _, _, n, _, _, _, strays⟩ := strays astray
    obtain ⟨reel, there, empty, past, _⟩ := strays.skips.reel
    exact ⟨reel, List.mem_of_getElem? there, empty, n, past, strays.skips.inside⟩
  · exact playMissed accepted rfl lasts fits rfl enough several missed go undisturbed
  · obtain ⟨_, _, _, _, _, _, _, _, strays⟩ := strays astray
    obtain ⟨reel, member, uneven⟩ := skipsStart strays.skips lasts accepted.parts
    exact uneven (whole reel member)

theorem alternatingWilling (request : Request) (world : Nat) :
    Willing false ⟨request, (alternating.answer request world).1⟩ := by
  cases request with
  | picture => exact ⟨_, rfl, nofun⟩
  | sound => exact ⟨_, rfl⟩
  | interrupted | trouble | deliver => rfl
  | stage | progress | nudge => trivial

def shortReel : Plan :=
  ⟨⟨24, 48⟩, 1, false, ⟨12000⟩, [⟨⟨0⟩, ⟨4100⟩⟩, ⟨⟨4100⟩, ⟨4200⟩⟩, ⟨⟨4200⟩, ⟨12000⟩⟩]⟩

def threeFiles : List FileSet := [.flat ⟨0, ⟨"a"⟩⟩, .flat ⟨1, ⟨"b"⟩⟩, .flat ⟨2, ⟨"c"⟩⟩]

theorem shortReelMissed : Missed shortReel shortReel.rates.pictureTicks := by
  refine ⟨⟨⟨4100⟩, ⟨4200⟩⟩, by decide, fun m => ?_, 2, by decide, by decide⟩
  have ticks : (tickStart shortReel.rates.pictureTicks m).ticks = (m * 4000 : Nat) := rfl
  simp only [Period.contains, ticks, Bool.and_eq_false_iff, decide_eq_false_iff_not]
  omega

theorem shortReelUndisturbed : Undisturbed shortReel
    ((dialogue ⟨shortReel, threeFiles, Status.new 24 ⟨12000⟩, false⟩ 12000).trace
      alternating.answer 0 |>.map Exchange.said) :=
  ⟨List.isEmpty_eq_false_iff.mp rfl, traceAnswered alternatingWilling _ 0⟩

theorem shortReelAstray :
    let t : Transfer := ⟨shortReel, threeFiles, Status.new 24 ⟨12000⟩, false⟩
    let result := (t.run 12000 alternating 0).1.1
    let said := ((t.dialogue 12000).trace alternating.answer 0).map Exchange.said
    Transfer.new shortReel threeFiles = .ok t ∧ 0 < shortReel.rates.pictureTicks ∧
      FitsInt64 (shortReel.length.ticks + shortReel.rates.pictureTicks) ∧
      t.enoughTicks ≤ 12000 ∧ Undisturbed shortReel said ∧ Astray said result ∧
      ∃ halt frames i n ticks, result = .error halt ∧
        shortReel.rates.soundPerPicture = .ok frames ∧ Strays t frames said halt i n ticks := by
  have cursor := @cursorAstray shortReel threeFiles _ rfl (by decide) (by decide) _ alternating 0
    12000 (by decide)
  have astray := (cursor.1 (by decide) shortReelUndisturbed).mpr shortReelMissed
  exact ⟨rfl, by decide, by decide, by decide, shortReelUndisturbed, astray, (cursor.2.1 astray).2⟩

end Telecine.Transfer
