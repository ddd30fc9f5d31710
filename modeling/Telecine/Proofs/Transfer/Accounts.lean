import Telecine.Proofs.Transfer.Ledger

/-! A run keeps to its books: each act leads from one standing to the next, and so does the run. -/
namespace Telecine.Transfer
open Dialogue

section Acts
variable {α : Type} {plan : Plan} {n k : Nat} {set : FileSet} {picture : Picture}

theorem levelAsk {request : Request} (aside : request.isAside = true) :
    Obeys (accounts plan) (Level plan n) (ask request) fun _ => Level plan n :=
  obeysAsk (fun _ _ level => levelAsks level request)
    fun _ _ reply level => levelAside level (asideSaid aside reply)

theorem levelKnown (value : Except Halt α) :
    Obeys (accounts plan) (Level plan n) (known value) fun _ => Level plan n := by
  refine obeysKnown fun said s level => ?_
  cases value with
  | error halt => exact levelHalts level halt
  | ok value => exact level

theorem levelSendAll {sends : List (Outlet × Delivery)}
    (aside : ∀ send ∈ sends, (Request.deliver send.1 send.2).isAside = true) :
    Obeys (accounts plan) (Level plan n) (sendAll sends) fun _ => Level plan n := by
  induction sends with
  | nil => exact levelKnown (.ok ())
  | cons send rest ih =>
    obtain ⟨first, later⟩ := List.forall_mem_cons.mp aside
    rw [sendAllCons]
    exact obeysBind (levelAsk first) fun answer => obeysBind (levelKnown answer) fun _ => ih later

theorem levelSendSame {outlets : List Outlet} {delivery : Delivery}
    (aside : ∀ outlet, (Request.deliver outlet delivery).isAside = true) :
    Obeys (accounts plan) (Level plan n) (sendAll (outlets.map (·, delivery))) fun _ => Level plan n := by
  refine levelSendAll fun send member => ?_
  obtain ⟨outlet, _, rfl⟩ := List.mem_map.mp member
  exact aside outlet

theorem amidNoPicture (more : k ≠ picturesPerTick plan) (outage : Outage)
    (post : α → List Said → Status → Prop) :
    Obeys (accounts plan) (Amid plan n k) (noPicture outage : Act α) post := by
  unfold noPicture
  split
  · refine obeysBind (obeysAsk (fun _ _ amid => amidAsks amid more .trouble)
      fun _ _ reply amid => amidAside amid (asideSaid rfl reply)) fun cause => ?_
    exact fun _ _ amid => amidHalts amid more _
  · exact fun _ _ amid => amidHalts amid more _

def Given (plan : Plan) (n k : Nat) (picture : Picture) (said : List Said) (s : Status) : Prop :=
  ∃ earlier before, said = earlier ++ [⟨.picture, .ok picture⟩] ∧ Amid plan n k earlier before ∧
    s = if picture.damaged then { before with damaged := before.damaged + 1 } else before

theorem givenBooked {said : List Said} {s : Status} (given : Given plan n k picture said s)
    (wanted : picture.unwanted plan.stereoscopic = false) : Booked plan said s := by
  obtain ⟨earlier, before, rfl, amid, rfl⟩ := given
  have booked := bookedPicture picture amid.booked
  simp only [wanted, Bool.false_eq_true, ↓reduceIte] at booked
  split <;> simp_all

theorem givenTally {said : List Said} {s : Status} (given : Given plan n k picture said s)
    (more : k ≠ picturesPerTick plan) (wanted : picture.unwanted plan.stereoscopic = false) :
    tally plan said = ⟨k, n⟩ ∧
      (Timely plan → s.time = tickStart plan.rates.pictureTicks n ∧ n < plan.tickCount) := by
  obtain ⟨earlier, before, rfl, amid, rfl⟩ := given
  refine ⟨?_, ?_⟩
  · simp [tallyOn, amid.tally, Tally.after, Said.starts, Said.settles, wanted, more]
  · split <;> exact amid.time

theorem givenTimed {said : List Said} {s : Status} (given : Given plan n k picture said s)
    (more : k ≠ picturesPerTick plan) (wanted : picture.unwanted plan.stereoscopic = false) :
    Timed plan said s := by
  obtain ⟨tallied, time⟩ := givenTally given more wanted
  unfold Timed
  rw [tallied]
  exact fun timely => ⟨(time timely).1, Nat.le_of_lt (time timely).2⟩

theorem strayWanted {stereoscopic : Bool} (stray : picture.stray stereoscopic = true) :
    picture.unwanted stereoscopic = false := by
  cases stereoscopic with
  | false => cases stray
  | true => rfl

theorem givenStrays {said : List Said} {s : Status} (given : Given plan n k picture said s)
    (more : k ≠ picturesPerTick plan) (stray : picture.stray plan.stereoscopic = true) :
    (accounts plan).halts said s
      (.failed (.internal "3D encoder set asked for a non-stereo frame")) := by
  have wanted := strayWanted stray
  refine ⟨givenBooked given wanted, givenTimed given more wanted, .inr ?_⟩
  obtain ⟨earlier, before, rfl, amid, _⟩ := given
  exact ⟨earlier, picture, rfl, amid.even, stray, rfl⟩

theorem givenDropped {said : List Said} {s : Status} (given : Given plan n k picture said s)
    (more : k ≠ picturesPerTick plan) (proper : picture.stray plan.stereoscopic = false)
    (unwanted : picture.unwanted plan.stereoscopic = true) :
    Amid plan n (k + 1) said { s with dropped := s.dropped + 1 } := by
  obtain ⟨earlier, before, rfl, amid, rfl⟩ := given
  have booked := bookedPicture picture amid.booked
  simp only [unwanted, ↓reduceIte] at booked
  have tallied : tally plan earlier = ⟨k, n⟩ := by rw [amid.tally, if_neg more]
  refine ⟨?_, evenUnwanted amid.even unwanted proper, tallySettles tallied rfl unwanted, ?_⟩
  · split <;> simp_all
  · split <;> exact amid.time

theorem givenDelivers {outlet : Outlet} {other : Picture} (more : k ≠ picturesPerTick plan)
    (proper : picture.stray plan.stereoscopic = false)
    (wanted : picture.unwanted plan.stereoscopic = false)
    (handed : picture.handedAs plan.stereoscopic = some other) :
    Obeys (accounts plan) (Given plan n k picture) (sendAll [(outlet, .picture other)])
      fun _ => Amid plan n (k + 1) := by
  intro said s given
  have even (answer : Except Halt Unit) :
      Even plan.stereoscopic (said ++ [⟨.deliver outlet (.picture other), answer⟩]) := by
    obtain ⟨earlier, before, rfl, amid, _⟩ := given
    exact evenHanded amid.even proper handed
  have booked (answer : Except Halt Unit) : Booked plan
      (said ++ [⟨.deliver outlet (.picture other), answer⟩]) s :=
    bookedAside (givenBooked given wanted) rfl rfl
  obtain ⟨tallied, time⟩ := givenTally given more wanted
  rw [sendAllCons]
  refine ⟨⟨givenBooked given wanted, givenTimed given more wanted, fun other' =>
    absurd rfl (other' outlet other)⟩, fun answer => ?_⟩
  cases answer with
  | error halt =>
    refine ⟨booked _, ?_, .inl (even _)⟩
    unfold Timed
    simp only [tallyOn, tallied, Tally.after, Said.starts, Said.settles, Bool.false_eq_true, ↓reduceIte]
    exact fun timely => ⟨(time timely).1, Nat.le_of_lt (time timely).2⟩
  | ok done =>
    exact ⟨booked _, even _, tallySettles tallied rfl rfl, time⟩

theorem amidSendPicture (even : set.isStereo = plan.stereoscopic) (more : k ≠ picturesPerTick plan) :
    Obeys (accounts plan) (fun said s => ∃ earlier, said = earlier ++ [⟨.picture, .ok picture⟩] ∧
      Amid plan n k earlier s) (sendPicture set picture) fun _ => Amid plan n (k + 1) := by
  unfold sendPicture
  have counts : Obeys (accounts plan) (fun said s =>
      ∃ earlier, said = earlier ++ [⟨.picture, .ok picture⟩] ∧ Amid plan n k earlier s)
      (change fun s => if picture.damaged then { s with damaged := s.damaged + 1 } else s)
      fun _ => Given plan n k picture :=
    obeysChange fun said s ⟨earlier, same, amid⟩ => ⟨earlier, s, same, amid, rfl⟩
  refine obeysBind counts fun _ => ?_
  by_cases takes : set.Takes picture
  · have proper := even ▸ FileSet.takesProper.mp takes
    have sends : dispatch set (.picture picture) = pure (set.shown picture) := by
      unfold dispatch
      rw [FileSet.dispatchTaken takes]
    rw [sends]
    cases unwanted : picture.unwanted plan.stereoscopic with
    | true =>
      rw [(FileSet.shownUnwanted takes).mpr (even ▸ unwanted)]
      exact fun said s given => givenDropped given more proper unwanted
    | false =>
      obtain ⟨outlet, shown⟩ := FileSet.shownHanded takes (even ▸ unwanted)
      rw [shown, even]
      exact givenDelivers more proper unwanted (handedWanted proper unwanted)
  · have stray : picture.stray plan.stereoscopic = true := by
      rw [← even]
      simpa [FileSet.takesProper] using takes
    have fails : dispatch set (.picture picture) =
        fail (.internal "3D encoder set asked for a non-stereo frame") := by
      unfold dispatch
      rw [FileSet.dispatchUntaken takes]
    rw [fails]
    exact fun said s given => givenStrays given more stray

theorem amidPicture (even : set.isStereo = plan.stereoscopic) (more : k ≠ picturesPerTick plan) :
    Obeys (accounts plan) (Amid plan n k) (passPicture set) fun _ => Amid plan n (k + 1) := by
  intro said s amid
  refine ⟨amidAsks amid more .picture, fun answer => ?_⟩
  cases answer with
  | error outage =>
    exact amidNoPicture more outage _ _ s (amidAside amid ⟨rfl, rfl, rfl, rfl, fun _ => rfl⟩)
  | ok picture => exact amidSendPicture even more _ s ⟨said, rfl, amid⟩

theorem amidPictures (even : set.isStereo = plan.stereoscopic) {count : Nat}
    (rest : k + count = picturesPerTick plan) :
    Obeys (accounts plan) (Amid plan n k) (passPictures set count)
      fun _ => Amid plan n (picturesPerTick plan) := by
  induction count generalizing k with
  | zero =>
    obtain rfl : k = picturesPerTick plan := rest
    exact fun _ _ amid => amid
  | succ count ih =>
    exact obeysBind (amidPicture even (by omega)) fun _ => ih (by omega)

theorem levelSound {frames : Nat} : Obeys (accounts plan) (Level plan n) (passSound plan frames set)
    fun _ => Level plan n := by
  intro said s level
  refine ⟨levelAsks level _, fun answer => ?_⟩
  cases answer with
  | error fault => exact levelHalts (levelAside level ⟨rfl, rfl, rfl, rfl, fun _ => rfl⟩) (.fault fault)
  | ok answer =>
    obtain ⟨samples, short⟩ := answer
    have onward : Level plan n (said ++ [⟨.sound frames _, .ok (samples, short)⟩]) (s.heard short) := by
      refine ⟨bookedSound level.booked, evenAside level.even rfl rfl, ?_, ?_⟩
      · rw [tallyOn, ← level.whole]
        rfl
      · unfold Status.heard
        split <;> exact level.time
    have delivers : Obeys (accounts plan) (Level plan n)
        (checked (Sound.deinterleave plan.soundChannels frames samples.val) >>= fun sound =>
          dispatch set (.sound sound) >>= sendAll) fun _ => Level plan n := by
      refine obeysBind (levelKnown _) fun sound => ?_
      rw [dispatchSound]
      exact obeysPureOn (levelSendSame fun _ => rfl)
    exact delivers _ _ onward

theorem levelFinish (sets : List FileSet) :
    Obeys (accounts plan) (Level plan n) (finishAll sets) fun _ => Level plan n := by
  induction sets with
  | nil => exact levelKnown (.ok ())
  | cons set rest ih =>
    rw [finishAll, dispatchFinish]
    exact obeysPureOn (obeysBind (levelSendSame fun _ => rfl) fun _ => ih)

end Acts

section Run
variable {t : Transfer} {n frames limit reel : Nat} {time : Time}

theorem someTicked (plan : Plan) : 0 ≠ picturesPerTick plan := by
  unfold picturesPerTick
  split <;> decide

theorem levelBegins {said : List Said} {s : Status} (level : Level t.plan n said s)
    (inside : Timely t.plan → n < t.plan.tickCount) (stop : Bool) :
    Amid t.plan n 0 (said ++ [⟨.interrupted, stop⟩]) s := by
  refine ⟨bookedAside level.booked rfl rfl, evenAside level.even rfl rfl, ?_,
    fun timely => ⟨(level.time timely).1, inside timely⟩⟩
  rw [tallyOn, if_neg (someTicked t.plan), ← level.whole]
  rfl

theorem amidEnds {said : List Said} {s : Status} {next : Time}
    (amid : Amid t.plan n (picturesPerTick t.plan) said s)
    (added : Timely t.plan → next = tickStart t.plan.rates.pictureTicks (n + 1)) :
    Level t.plan (n + 1) said { s with time := next } := by
  obtain ⟨⟨rate, damaged, dropped, underruns⟩, even, tallied, within⟩ := amid
  refine ⟨⟨rate, damaged, dropped, underruns⟩, even, by simp [tallied], fun timely => ?_⟩
  exact ⟨added timely, (within timely).2⟩

theorem amidAdd (start : Timely t.plan → time = tickStart t.plan.rates.pictureTicks n) :
    Obeys (accounts t.plan) (Amid t.plan n (picturesPerTick t.plan))
      (checked (time.add ⟨t.plan.rates.pictureTicks⟩)) fun next said s =>
        (Timely t.plan → next = tickStart t.plan.rates.pictureTicks (n + 1)) ∧
          Amid t.plan n (picturesPerTick t.plan) said s := by
  refine obeysKnown fun said s amid => ?_
  have exact' (timely : Timely t.plan) : time.add ⟨t.plan.rates.pictureTicks⟩ =
      .ok (tickStart t.plan.rates.pictureTicks (n + 1)) := by
    rw [start timely]
    refine tickNext.mpr ⟨?_, rfl⟩
    have low := startNonneg t.plan.rates.pictureTicks (n + 1)
    have high : (n + 1) * t.plan.rates.pictureTicks ≤ t.plan.tickCount * t.plan.rates.pictureTicks :=
      Nat.mul_le_mul_right _ (amid.time timely).2
    have fits := timely.2
    simp only [FitsInt64, tickStart] at low fits ⊢
    omega
  cases sum : time.add ⟨t.plan.rates.pictureTicks⟩ with
  | error fault =>
    refine ⟨amid.booked, fun timely => ?_, .inl amid.even⟩
    rw [exact' timely] at sum
    cases sum
  | ok next =>
    refine ⟨fun timely => ?_, amid⟩
    rw [exact' timely] at sum
    exact (Except.ok.inj sum).symm

theorem amidSet (accepted : Accepted t.plan t.sets) : Obeys (accounts t.plan) (Amid t.plan n 0)
    (known (t.setOf reel)) fun set said s => set.isStereo = t.plan.stereoscopic ∧
      Amid t.plan n 0 said s := by
  refine obeysKnown fun said s amid => ?_
  cases found : t.setOf reel with
  | error halt => exact amidHalts amid (someTicked t.plan) halt
  | ok set => exact ⟨accepted.stereo set (List.mem_of_getElem? (setOfFound.mp found)), amid⟩

theorem amidReel : Obeys (accounts t.plan) (Amid t.plan n 0) (known (t.reelAt reel time))
    fun _ => Amid t.plan n 0 := by
  refine obeysKnown fun said s amid => ?_
  cases t.reelAt reel time with
  | error halt => exact amidHalts amid (someTicked t.plan) halt
  | ok later => exact amid

theorem amidPass (accepted : Accepted t.plan t.sets)
    (start : Timely t.plan → time = tickStart t.plan.rates.pictureTicks n) :
    Obeys (accounts t.plan) (Amid t.plan n 0) (t.pass ⟨t.plan.rates.pictureTicks⟩ frames reel time)
      fun passed said s => (Timely t.plan → passed.2 = tickStart t.plan.rates.pictureTicks (n + 1)) ∧
        Level t.plan (n + 1) said s :=
  obeysBind amidReel fun _ => obeysBind (amidSet accepted) fun _ => obeysGiven fun even =>
    obeysBind (amidPictures even (Nat.zero_add _)) fun _ => obeysBind (amidAdd start) fun _ =>
      obeysGiven fun added => obeysBind (obeysChange fun _ _ amid => amidEnds amid added) fun _ =>
        obeysBind (obeysLook fun _ _ level => level) fun _ => obeysBind (levelAsk rfl) fun _ =>
          obeysBind (levelAsk rfl) fun _ => obeysBind levelSound fun _ =>
            fun _ _ level => ⟨added, level⟩

theorem levelTick (accepted : Accepted t.plan t.sets) (inside : Timely t.plan → n < t.plan.tickCount)
    (start : Timely t.plan → time = tickStart t.plan.rates.pictureTicks n) :
    Obeys (accounts t.plan) (Level t.plan n) (t.tick ⟨t.plan.rates.pictureTicks⟩ frames reel time)
      fun passed said s => (Timely t.plan → passed.2 = tickStart t.plan.rates.pictureTicks (n + 1)) ∧
        Level t.plan (n + 1) said s := by
  rw [tickParts]
  refine obeysBind (obeysAsk (fun _ _ level => levelAsks level _)
    fun _ _ stop level => levelBegins level inside stop) fun stop => ?_
  cases stop with
  | true => exact fun _ _ amid => amidHalts amid (someTicked t.plan) _
  | false => exact amidPass accepted start

theorem levelTicks (accepted : Accepted t.plan t.sets) (count : Nat)
    (start : Timely t.plan → time = tickStart t.plan.rates.pictureTicks n) :
    Obeys (accounts t.plan) (Level t.plan n)
      (t.ticks ⟨t.plan.rates.pictureTicks⟩ frames limit reel time count)
      fun _ said s => ∃ n, Level t.plan n said s := by
  induction limit generalizing n reel time count with
  | zero =>
    unfold Transfer.ticks
    split
    · exact fun _ _ level => levelHalts level .limit
    · exact fun _ _ level => ⟨n, level⟩
  | succ limit ih =>
    unfold Transfer.ticks
    split
    · rename_i inside
      have within (timely : Timely t.plan) : n < t.plan.tickCount := by
        rw [start timely] at inside
        exact (startInside timely.1).mp inside
      exact obeysBind (levelTick accepted within start) fun after =>
        obeysGiven fun start' => ih (count + 1) start'
    · exact fun _ _ level => ⟨n, level⟩

theorem levelConclude (count : Nat) : Obeys (accounts t.plan) (Level t.plan n) (t.conclude count)
    fun _ => Level t.plan n := by
  refine obeysBind (obeysChange fun said s level => ?_) fun _ =>
    obeysBind (levelAsk (n := n) rfl) fun putOff => ?_
  · obtain ⟨⟨rate, damaged, dropped, underruns⟩, even, whole, time⟩ := level
    exact ⟨⟨rate, damaged, dropped, underruns⟩, even, whole, time⟩
  · cases putOff with
    | none => exact fun _ _ level => level
    | some failure => exact fun _ _ level => levelHalts level _

theorem levelPlay (accepted : Accepted t.plan t.sets) (fresh : t.started = false) :
    Obeys (accounts t.plan) (Level t.plan 0) (t.play limit) fun _ said s => ∃ n, Level t.plan n said s := by
  cases opens : t.opening with
  | error fault =>
    rw [playCrowded fresh opens]
    exact fun _ _ level => levelHalts level _
  | ok opened =>
    obtain ⟨duration, frames⟩ := opened
    obtain ⟨rfl, _⟩ := openingExact accepted.picture opens
    rw [playBegun fresh opens]
    refine obeysBind (levelAsk rfl) fun _ => obeysBind
      (levelTicks accepted 0 fun _ => startZero t.plan.rates.pictureTicks) fun count => ?_
    intro said s ⟨n, level⟩
    exact obeysWeaken (obeysBind (levelFinish t.sets) fun _ => levelConclude count)
      (fun _ _ level => level) (fun _ _ _ level => ⟨n, level⟩) said s level

theorem levelNew (plan : Plan) : Level plan 0 [] (Status.new plan.rates.picture plan.length) :=
  ⟨⟨rfl, rfl, rfl, rfl⟩, ⟨by simp [obtained], rfl⟩, rfl,
    fun _ => ⟨startZero plan.rates.pictureTicks, Nat.zero_le _⟩⟩

variable {told : List Told} {result : Except Halt Summary} {before after : Status}

theorem playEnds (accepted : Accepted t.plan t.sets) (fresh : t.started = false)
    (level : Level t.plan 0 [] before) (telling : Tells ((t.play limit).run before) told result after) :
    Booked t.plan (told.map Exchange.said) after ∧ Timed t.plan (told.map Exchange.said) after ∧
      (Even t.plan.stereoscopic (told.map Exchange.said) ∨ ∃ halt, result = .error halt ∧
        Strayed t.plan.stereoscopic (told.map Exchange.said) halt) := by
  have ended := (tellsFollows (levelPlay accepted fresh [] before level) telling).2
  rw [List.nil_append] at ended
  cases result with
  | error halt =>
    obtain ⟨booked, timed, even | strayed⟩ := ended
    · exact ⟨booked, timed, .inl even⟩
    · exact ⟨booked, timed, .inr ⟨halt, rfl, strayed⟩⟩
  | ok summary =>
    obtain ⟨n, level⟩ := ended
    exact ⟨level.booked, levelTimed level, .inl level.even⟩

theorem playShows (accepted : Accepted t.plan t.sets) (fresh : t.started = false)
    (level : Level t.plan 0 [] before) (telling : Tells ((t.play limit).run before) told result after)
    {first rest : List Told} (split : told = first ++ rest) :
    Booked t.plan (first.map Exchange.said) (statusNext rest after) ∧
      Timed t.plan (first.map Exchange.said) (statusNext rest after) := by
  cases rest with
  | nil =>
    rw [List.append_nil] at split
    obtain ⟨booked, timed, _⟩ := playEnds accepted fresh level telling
    exact split ▸ ⟨booked, timed⟩
  | cons e rest =>
    have asked := (tellsFollows (levelPlay accepted fresh [] before level) telling).1 first e rest split
    exact ⟨asked.1, asked.2.1⟩

end Run

structure Balanced (stereoscopic : Bool) (said : List Said) (s : Status) : Prop
    extends Even stereoscopic said where
  count : (obtained said).length = (Transfer.handed said).length + s.dropped

structure Accounted (plan : Plan) (told : List Told) (result : Except Halt Summary) (after : Status) :
    Prop where
  booked : ∀ first rest, told = first ++ rest →
    Booked plan (first.map Exchange.said) (statusNext rest after)
  asked : ∀ first e rest, told = first ++ e :: rest →
    (e.question = .picture ∨ ∃ frames size, e.question = .sound frames size) →
    Balanced plan.stereoscopic (first.map Exchange.said) e.shown
  ended : Balanced plan.stereoscopic (told.map Exchange.said) after ∨
    ∃ halt, result = .error halt ∧ Strayed plan.stereoscopic (told.map Exchange.said) halt ∧
      handed (told.map Exchange.said) =
        (obtained (told.map Exchange.said)).filterMap (Picture.handedAs plan.stereoscopic) ∧
      (obtained (told.map Exchange.said)).length =
        (handed (told.map Exchange.said)).length + after.dropped + 1
  done : 96000 % plan.rates.picture = 0 →
    FitsInt64 (2 * (plan.length.ticks + plan.rates.pictureTicks) * plan.rates.picture + 96000) →
    ∀ first rest, told = first ++ rest → (statusNext rest after).picturesDone =
      .ok (tally plan (first.map Exchange.said)).whole

section Accounted
variable {plan : Plan} {said : List Said} {s : Status} {halt : Halt}

theorem evenBalanced (even : Even plan.stereoscopic said) (booked : Booked plan said s) :
    Balanced plan.stereoscopic said s :=
  ⟨even, by rw [even.handed, booked.dropped, ← handedCount even.proper]⟩

theorem strayBalanced (strayed : Strayed plan.stereoscopic said halt) (booked : Booked plan said s) :
    handed said = (obtained said).filterMap (Picture.handedAs plan.stereoscopic) ∧
      (obtained said).length = (handed said).length + s.dropped + 1 := by
  obtain ⟨earlier, picture, rfl, even, stray, _⟩ := strayed
  have none : picture.handedAs plan.stereoscopic = none := by simp [Picture.handedAs, stray]
  have counted := handedCount even.proper
  have dropped := booked.dropped
  rw [obtainedOn] at dropped
  rw [handedOn, obtainedOn]
  simp only [Said.obtained?, Said.handed?, Option.toList_some, Option.toList_none, List.append_nil,
    List.filterMap_append, List.length_append, even.handed]
  refine ⟨by simp [none], ?_⟩
  simp [Said.obtained?, strayWanted stray] at dropped
  simp
  omega

theorem doneWhole (divides : 96000 % plan.rates.picture = 0)
    (fits : FitsInt64 ((plan.tickCount : Int) * 192000 + 96000)) (booked : Booked plan said s)
    (timed : Timed plan said s) : s.picturesDone = .ok (tally plan said).whole ∧
      (tally plan said).whole ≤ plan.tickCount := by
  have timely : Timely plan := by
    refine ⟨FrameRates.ticksLast divides, ?_⟩
    have short : plan.rates.pictureTicks ≤ 96000 := Nat.div_le_self _ _
    have bound := Nat.mul_le_mul_left plan.tickCount short
    simp only [FitsInt64, tickStart] at fits ⊢
    omega
  obtain ⟨time, within⟩ := timed timely
  refine ⟨?_, within⟩
  rw [Status.picturesDone, time, booked.rate]
  refine (FrameRates.picturesWhole divides).mpr ⟨?_, rfl⟩
  unfold FitsInt64 at *
  omega

theorem tickBound (divides : 96000 % plan.rates.picture = 0)
    (fits : FitsInt64 (2 * (plan.length.ticks + plan.rates.pictureTicks) * plan.rates.picture + 96000)) :
    FitsInt64 ((plan.tickCount : Int) * 192000 + 96000) := by
  have whole := FrameRates.ticksWhole divides
  have lasts := FrameRates.ticksLast divides
  have covered : plan.tickCount * plan.rates.pictureTicks ≤
      plan.length.ticks.toNat + (plan.rates.pictureTicks - 1) := Nat.div_mul_le_self _ _
  rcases Nat.eq_zero_or_pos plan.tickCount with none | more
  · rw [none]
    decide
  · have long := Nat.le_mul_of_pos_left plan.rates.pictureTicks more
    have bound : ((plan.tickCount * plan.rates.pictureTicks : Nat) : Int) ≤
        plan.length.ticks + plan.rates.pictureTicks := by omega
    have scaled : (plan.tickCount : Int) * 96000 =
        (plan.tickCount * plan.rates.pictureTicks : Nat) * (plan.rates.picture : Int) := by
      rw [← Int.natCast_mul, Nat.mul_assoc, whole]
      rfl
    have stretched := Int.mul_le_mul_of_nonneg_right bound (Int.natCast_nonneg plan.rates.picture)
    rw [Int.mul_assoc] at fits
    unfold FitsInt64 at *
    omega

end Accounted

theorem picturesAccounted {plan : Plan} {sets : List FileSet} {t : Transfer}
    (made : Transfer.new plan sets = .ok t) {ω : Type} (surroundings : Surroundings (StateM ω))
    (world : ω) (limit : Nat) (limits : List Nat) :
    let ran := t.run limit surroundings world
    let told := traceRuns surroundings (limit :: limits) t world
    Accounted plan told ran.1.1 ran.1.2.status ∧
      ∀ again elsewhere, ran.1.2.run again surroundings elsewhere =
        ((.error (.failed (.internal "transcoder run more than once")), ran.1.2), elsewhere) := by
  obtain ⟨accepted, rfl⟩ := newAccepted.mp made
  intro ran told
  have telling := traceTells surroundings.answer
    (dialogue ⟨plan, sets, Status.new plan.rates.picture plan.length, false⟩ limit) world
  rw [← tracesOnce surroundings world limit limits] at telling
  have level := levelNew plan
  obtain ⟨booked, _, ends⟩ := playEnds accepted rfl level telling
  refine ⟨⟨fun first rest split => (playShows accepted rfl level telling split).1,
    fun first e rest split asks => ?_, ?_, fun divides fits first rest split => ?_⟩,
    fun again elsewhere => runAgain surroundings elsewhere rfl again⟩
  · have asked := (tellsFollows (levelPlay accepted rfl [] _ level) telling).1 first e rest split
    refine evenBalanced (asked.2.2 fun outlet picture delivers => ?_) asked.1
    rcases asks with same | ⟨frames, size, same⟩ <;> cases same.symm.trans delivers
  · rcases ends with even | ⟨halt, failed, strayed⟩
    · exact .inl (evenBalanced even booked)
    · obtain ⟨handed, count⟩ := strayBalanced strayed booked
      exact .inr ⟨halt, failed, strayed, handed, count⟩
  · obtain ⟨shown, timed⟩ := playShows accepted rfl level telling split
    exact (doneWhole divides (tickBound divides fits) shown timed).1

def careless : Surroundings (StateM Nat) :=
  { alternating with
    picture := fun n =>
      (.ok ⟨⟨0, 0, .empty⟩, if n % 2 = 0 then .left else .right, ⟨0⟩, n % 2 = 1⟩, n + 1)
    sound := fun frames size => return (← alternating.sound frames size).map fun heard => (heard.1, true) }

theorem picturesAccountedTwoReels :
    let t : Transfer := ⟨twoReels, twoFiles, Status.new 24 ⟨8000⟩, false⟩
    let ran := t.run 2 careless 0
    let told := traceRuns careless [2, 2] t 0
    Transfer.new twoReels twoFiles = .ok t ∧ Accounted twoReels told ran.1.1 ran.1.2.status ∧
      ran.1.2.status = ⟨24, ⟨8000⟩, ⟨8000⟩, 1, 1, 2, true⟩ ∧
      ran.1.2.status.picturesDone = .ok (tally twoReels (told.map Exchange.said)).whole ∧
      (tally twoReels (told.map Exchange.said)).whole = 2 := by
  have accounted := (@picturesAccounted twoReels twoFiles _ rfl _ careless 0 2 [2]).1
  exact ⟨rfl, accounted, rfl, accounted.done (by decide) (by decide) _ [] (List.append_nil _).symm, rfl⟩

/-- A picture for both eyes, after one for the left, has no file in a stereoscopic set: it is neither handed
over nor dropped. -/
example :
    let plan := { twoReels with stereoscopic := true }
    let t : Transfer := ⟨plan, [.stereo ⟨0, ⟨"a"⟩⟩ ⟨1, ⟨"b"⟩⟩], Status.new 24 ⟨8000⟩, false⟩
    let flat : Surroundings (StateM Nat) := { alternating with
      picture := fun n => (.ok ⟨⟨0, 0, .empty⟩, if n = 0 then .left else .both, ⟨0⟩, false⟩, n + 1) }
    let told := traceRuns flat [2] t 0
    Transfer.new plan t.sets = .ok t ∧ (obtained (told.map Exchange.said)).length = 2 ∧
      (handed (told.map Exchange.said)).length = 1 ∧ (t.run 2 flat 0).1.2.status.dropped = 0 :=
  ⟨rfl, rfl, rfl, rfl⟩

end Telecine.Transfer
