import Mathlib.Data.List.Sort
import Telecine.Proofs.Film.Reels

/-! The frames between which the reels of a film lie: its first, its last, and those at which its layout
has a reel begin. The reels are the periods from each of them to the next. -/
namespace Telecine

def spans (duration : Nat) : List Int → List Period
  | a :: b :: rest => ⟨⟨a * duration⟩, ⟨b * duration⟩⟩ :: spans duration (b :: rest)
  | _ => []

section Spans
variable {duration i : Nat} {bounds : List Int} {a b : Int}

theorem spansLength : (spans duration (a :: bounds)).length = bounds.length := by
  induction bounds generalizing a with
  | nil => rfl
  | cons b bounds ih => rw [spans, List.length_cons, ih, List.length_cons]

theorem spansAt (here : bounds[i]? = some a) (next : bounds[i + 1]? = some b) :
    (spans duration bounds)[i]? = some ⟨⟨a * duration⟩, ⟨b * duration⟩⟩ := by
  induction bounds generalizing i with
  | nil => cases here
  | cons first rest ih =>
    cases rest with
    | nil => cases next
    | cons second rest =>
      cases i with
      | zero =>
        cases Option.some.inj here
        cases Option.some.inj next
        rfl
      | succ i => exact ih here next

theorem orderedAt (rising : bounds.Pairwise (· < ·)) {j : Nat} (here : bounds[i]? = some a)
    (there : bounds[j]? = some b) (before : i < j) : a < b := by
  obtain ⟨within, rfl⟩ := List.getElem?_eq_some_iff.mp here
  obtain ⟨within', rfl⟩ := List.getElem?_eq_some_iff.mp there
  exact List.pairwise_iff_getElem.mp rising i j within within' before

theorem noneBetween (rising : bounds.Pairwise (· < ·)) (here : bounds[i]? = some a)
    (next : bounds[i + 1]? = some b) {frame : Int} (member : frame ∈ bounds) :
    frame ≤ a ∨ b ≤ frame := by
  obtain ⟨j, there⟩ := List.mem_iff_getElem?.mp member
  rcases Nat.lt_trichotomy j i with before | rfl | after
  · exact .inl (Int.le_of_lt (orderedAt rising there here before))
  · exact .inl (Int.le_of_eq (Option.some.inj (there.symm.trans here)))
  · rcases Nat.lt_or_eq_of_le (Nat.succ_le_of_lt after) with later | rfl
    · exact .inr (Int.le_of_lt (orderedAt rising next there later))
    · exact .inr (Int.le_of_eq (Option.some.inj (next.symm.trans there)))

end Spans

namespace Film

section Starts
variable {f : Film} {rate start : Nat} {last : Int} {bounds : List Int}

theorem ofFramesInside (some : rate ≠ 0) (divides : 96000 % rate = 0)
    (fits : FitsInt64 (last * Time.ticksPerSecond)) {frame : Int} (begun : 0 ≤ frame)
    (within : frame ≤ last) : Time.ofFrames frame rate = .ok ⟨frame * (96000 / rate : Nat)⟩ := by
  obtain ⟨n, rfl⟩ := Int.eq_ofNat_of_zero_le begun
  rw [ofFramesWhole some divides (by unfold FitsInt64 Time.ticksPerSecond at *; omega), tickStart,
    Int.natCast_mul]

theorem periodsSpans {rate : Nat} {start : Int}
    (starts : ∀ frame ∈ start :: bounds, Time.ofFrames frame rate = .ok ⟨frame * (96000 / rate : Nat)⟩)
    (rising : (start :: bounds).Pairwise (· < ·)) (done : List Period) :
    periodsFrom rate start bounds done =
      .ok (done.reverse ++ spans (96000 / rate) (start :: bounds)) := by
  induction bounds generalizing start done with
  | nil => simp [periodsFrom, spans]
  | cons bound rest ih =>
    obtain ⟨here, others⟩ := List.forall_mem_cons.mp starts
    obtain ⟨above, later⟩ := List.pairwise_cons.mp rising
    rw [periodsFrom, if_pos (above bound List.mem_cons_self), here, others bound List.mem_cons_self]
    simp only [bind, Except.bind]
    rw [ih others later, spans]
    simp

theorem boundsRising (fit : f.Fit) {cuts : List Int} (found : f.cuts = .ok cuts) :
    (0 :: (cuts ++ [f.lengthFrames])).Pairwise (· < ·) := by
  have inside := cutsWithin found
  refine List.pairwise_cons.mpr ⟨?_, List.pairwise_append.mpr
    ⟨cutsRising found, List.pairwise_singleton _ _, ?_⟩⟩
  · intro bound member
    rcases List.mem_append.mp member with cut | last
    · exact (inside bound cut).1
    · rw [List.mem_singleton.mp last]
      exact fit.length
  · intro cut member last same
    rw [List.mem_singleton.mp same]
    exact (inside cut member).2

theorem reelsSpans (fit : f.Fit) (fits : FitsInt64 (f.lengthFrames * Time.ticksPerSecond))
    {cuts : List Int} (found : f.cuts = .ok cuts) :
    f.reels = .ok (spans f.rates.pictureTicks (0 :: (cuts ++ [f.lengthFrames]))) := by
  have inside := cutsWithin found
  have starts : ∀ frame ∈ 0 :: (cuts ++ [f.lengthFrames]), Time.ofFrames frame f.rates.picture =
      .ok ⟨frame * (96000 / f.rates.picture : Nat)⟩ := by
    intro frame member
    have within : 0 ≤ frame ∧ frame ≤ f.lengthFrames := by
      have some := fit.length
      rcases List.mem_cons.mp member with rfl | member
      · omega
      · rcases List.mem_append.mp member with cut | last
        · have := inside frame cut
          omega
        · rw [List.mem_singleton.mp last]
          omega
    exact ofFramesInside fit.rate fit.divides fits within.1 within.2
  rw [Film.reels, found]
  exact periodsSpans starts (boundsRising fit found) []

end Starts

/-- The reels lie between the bounds. Where they go by a length, all but the last have that length. -/
structure Division (f : Film) (bounds : List Int) (reels : List Period) : Prop where
  first : bounds.head? = some 0
  last : bounds.getLast? = some f.lengthFrames
  rising : bounds.Pairwise (· < ·)
  inner : ∀ frame, frame ∈ bounds ↔ frame = 0 ∨ frame = f.lengthFrames ∨ f.Cut frame
  count : reels.length + 1 = bounds.length
  reel : ∀ (i : Nat) (a b : Int), bounds[i]? = some a → bounds[i + 1]? = some b →
    ∃ reel : Period, reels[i]? = some reel ∧ Time.ofFrames a f.rates.picture = .ok reel.start ∧
      Time.ofFrames b f.rates.picture = .ok reel.stop
  even : ∀ seconds, f.layout = .byLength seconds → ∀ (i : Nat) (a b : Int), bounds[i]? = some a →
    bounds[i + 1]? = some b → 1 ≤ b - a ∧ b - a ≤ evenFrames f.rates.picture seconds ∧
      (i + 2 < bounds.length → b - a = evenFrames f.rates.picture seconds)

section Division
variable {f : Film} {bounds : List Int} {i : Nat} {a b : Int}

theorem evenReels (fit : f.Fit) {seconds : Float} (even : f.layout = .byLength seconds)
    (rising : bounds.Pairwise (· < ·)) (last : bounds.getLast? = some f.lengthFrames)
    (inner : ∀ frame, frame ∈ bounds ↔ frame = 0 ∨ frame = f.lengthFrames ∨ f.Cut frame)
    (here : bounds[i]? = some a) (next : bounds[i + 1]? = some b) :
    1 ≤ b - a ∧ b - a ≤ evenFrames f.rates.picture seconds ∧
      (i + 2 < bounds.length → b - a = evenFrames f.rates.picture seconds) := by
  generalize least : evenFrames f.rates.picture seconds = step
  have some : 0 < step := least ▸ (evenFramesFit _ _).1
  have length := fit.length
  have cut (frame : Int) : f.Cut frame ↔ 0 < frame ∧ frame < f.lengthFrames ∧ step ∣ frame := by
    unfold Film.Cut
    rw [even, ← least]
  have longer : a < b := orderedAt rising here next (Nat.lt_succ_self i)
  have from' := (inner a).mp (List.mem_of_getElem? here)
  have until' := (inner b).mp (List.mem_of_getElem? next)
  rw [cut] at from' until'
  have begun : 0 ≤ a ∧ step ∣ a := by
    rcases from' with rfl | rfl | ⟨above, _, whole⟩
    · exact ⟨Int.le_refl 0, Int.dvd_zero _⟩
    · omega
    · exact ⟨Int.le_of_lt above, whole⟩
  have most : b ≤ a + step := by
    rcases Int.lt_or_le (a + step) f.lengthFrames with inside | beyond
    · have member := (inner (a + step)).mpr (.inr (.inr ((cut _).mpr
        ⟨by omega, inside, Int.dvd_add begun.2 (Int.dvd_refl step)⟩)))
      have := noneBetween rising here next member
      omega
    · omega
  refine ⟨by omega, by omega, fun more => ?_⟩
  have inside : b < f.lengthFrames := by
    rw [List.getLast?_eq_getElem?] at last
    exact orderedAt rising next last (by omega)
  have whole : step ∣ b := by
    rcases until' with rfl | rfl | ⟨_, _, whole⟩
    · omega
    · omega
    · exact whole
  have := Int.le_of_dvd (by omega) (Int.dvd_sub whole begun.2)
  omega

theorem divisionOf (fit : f.Fit) (fits : FitsInt64 (f.lengthFrames * Time.ticksPerSecond))
    {cuts : List Int} (found : f.cuts = .ok cuts) : f.Division (0 :: (cuts ++ [f.lengthFrames]))
      (spans f.rates.pictureTicks (0 :: (cuts ++ [f.lengthFrames]))) := by
  have length := fit.length
  have rising := boundsRising fit found
  have last : (0 :: (cuts ++ [f.lengthFrames])).getLast? = some f.lengthFrames := by
    rw [← List.cons_append, List.getLast?_concat]
  have inner (frame : Int) : frame ∈ 0 :: (cuts ++ [f.lengthFrames]) ↔
      frame = 0 ∨ frame = f.lengthFrames ∨ f.Cut frame := by
    rw [List.mem_cons, List.mem_append, memCuts found, List.mem_singleton, or_comm (a := f.Cut frame)]
  have inside {frame : Int} (member : frame ∈ 0 :: (cuts ++ [f.lengthFrames])) :
      0 ≤ frame ∧ frame ≤ f.lengthFrames := by
    rcases (inner frame).mp member with rfl | rfl | ⟨above, below, _⟩ <;> omega
  refine ⟨rfl, last, rising, inner, ?_, fun i a b here next => ?_, ?_⟩
  · rw [spansLength]
    rfl
  · obtain ⟨begun, within⟩ := inside (List.mem_of_getElem? here)
    obtain ⟨begun', within'⟩ := inside (List.mem_of_getElem? next)
    exact ⟨_, spansAt here next, ofFramesInside fit.rate fit.divides fits begun within,
      ofFramesInside fit.rate fit.divides fits begun' within'⟩
  · intro seconds even i a b here next
    exact evenReels fit even rising last inner here next

theorem divisionBounds {reels : List Period} (division : f.Division bounds reels) (frames : List Int)
    (rising : frames.Pairwise (· < ·))
    (same : ∀ frame, frame ∈ frames ↔ frame = 0 ∨ frame = f.lengthFrames ∨ f.Cut frame) :
    bounds = frames :=
  division.rising.eq_of_mem_iff rising fun frame => (division.inner frame).trans (same frame).symm

theorem cutsSame {other : Film} {cuts more : List Int} (found : f.cuts = .ok cuts)
    (found' : other.cuts = .ok more) (same : ∀ frame, other.Cut frame ↔ f.Cut frame) : more = cuts :=
  (cutsRising found').eq_of_mem_iff (cutsRising found) fun frame => by
    rw [memCuts found', memCuts found, same]

end Division

theorem filmDivided {f : Film} (valid : f.validate = .ok ())
    (fits : FitsInt64 (f.lengthFrames * Time.ticksPerSecond)) :
    ∃ length bounds reels, f.length = .ok length ∧ f.reels = .ok reels ∧ f.Division bounds reels ∧
      Period.partition reels length = true ∧
      ∀ cuts others, f.layout = .atFrames cuts →
        (∀ frame, 0 < frame → frame < f.lengthFrames → (frame ∈ others ↔ frame ∈ cuts)) →
          { f with layout := .atFrames others }.reels = .ok reels := by
  have fit := validFit valid
  have some := fit.length
  obtain ⟨last, length⟩ := Int.eq_ofNat_of_zero_le (Int.le_of_lt some)
  obtain ⟨cuts, found⟩ := cutsFound fit (by unfold FitsInt64 Time.ticksPerSecond at *; omega)
  have reels := reelsSpans fit fits found
  have fits' : FitsInt64 (last * Time.ticksPerSecond) := length ▸ fits
  have lasts : f.length = .ok (tickStart f.rates.pictureTicks last) := by
    rw [Film.length, length, ofFramesWhole fit.rate fit.divides fits']
    rfl
  refine ⟨_, _, _, lasts, reels, divisionOf fit fits found, wholePartition (pictureLasts fit)
    (reelsFound fit length fits' reels) (by omega), ?_⟩
  intro given others layout same
  have fit' : Fit { f with layout := .atFrames others } :=
    ⟨fit.rate, fit.divides, fit.sound, fit.channels, fit.length⟩
  obtain ⟨more, found'⟩ : ∃ more, Film.cuts { f with layout := .atFrames others } = .ok more :=
    ⟨_, rfl⟩
  have cut (frame : Int) : Cut { f with layout := .atFrames others } frame ↔ f.Cut frame := by
    unfold Cut
    rw [layout]
    exact and_congr_right fun above => and_congr_right fun below => same frame above below
  rw [reelsSpans fit' fits found', cutsSame found found' cut]

/-- Cuts out of order, one twice, one at the end and some outside the film. -/
def crossCut : Film := ⟨"1.0", "cross", ⟨24, 48000⟩, 6, false, 2, 2, 5, .atFrames [3, 1, 3, -4, 5, 9]⟩

/-- Two frames and a half to a reel. -/
def halfFrames : Film := ⟨"1.0", "half", ⟨5, 48000⟩, 6, false, 2, 2, 7, .byLength 0.5⟩

/-- More frames to a reel than 64 bits hold. -/
def endlessReel : Film := { halfFrames with layout := .byLength 2e18 }

theorem threeFilmsDivided :
    (crossCut.validate = .ok () ∧ FitsInt64 (crossCut.lengthFrames * Time.ticksPerSecond) ∧
      ∃ reels, crossCut.reels = .ok reels ∧ crossCut.Division [0, 1, 3, 5] reels ∧
        Period.partition reels ⟨20000⟩ = true ∧
        { crossCut with layout := .atFrames [1, 3] }.reels = .ok reels) ∧
    (halfFrames.validate = .ok () ∧ FitsInt64 (halfFrames.lengthFrames * Time.ticksPerSecond) ∧
      evenFrames 5 0.5 = 3 ∧ ∃ reels, halfFrames.reels = .ok reels ∧
        halfFrames.Division [0, 3, 6, 7] reels ∧ Period.partition reels ⟨134400⟩ = true) ∧
    (endlessReel.validate = .ok () ∧ evenFrames 5 2e18 = 9223372036854775807 ∧
      ∃ reels, endlessReel.reels = .ok reels ∧ endlessReel.Division [0, 7] reels ∧
        Period.partition reels ⟨134400⟩ = true) := by
  have halves : evenFrames 5 0.5 = 3 := by
    rw [← reelFramesEven]
    decide +kernel
  have most : evenFrames 5 2e18 = 9223372036854775807 := by
    rw [← reelFramesEven]
    decide +kernel
  refine ⟨⟨rfl, by decide, ?_⟩, ⟨rfl, by decide, halves, ?_⟩, rfl, most, ?_⟩
  · obtain ⟨length, bounds, reels, lasts, found, division, parts, same⟩ :=
      @filmDivided crossCut rfl (by decide)
    have exact' : crossCut.length = .ok ⟨20000⟩ := rfl
    obtain rfl := Except.ok.inj (exact'.symm.trans lasts)
    obtain rfl := divisionBounds division [0, 1, 3, 5] (by decide) fun frame => by
      simp only [Cut, crossCut, List.mem_cons, List.not_mem_nil, or_false]
      omega
    refine ⟨reels, found, division, parts, same _ [1, 3] rfl fun frame above below => ?_⟩
    have low : frame < 5 := below
    simp only [List.mem_cons, List.not_mem_nil, or_false]
    omega
  · obtain ⟨length, bounds, reels, lasts, found, division, parts, _⟩ :=
      @filmDivided halfFrames rfl (by decide)
    have exact' : halfFrames.length = .ok ⟨134400⟩ := rfl
    obtain rfl := Except.ok.inj (exact'.symm.trans lasts)
    obtain rfl := divisionBounds division [0, 3, 6, 7] (by decide) fun frame => by
      simp only [Cut, halfFrames, halves, List.mem_cons, List.not_mem_nil, or_false]
      omega
    exact ⟨reels, found, division, parts⟩
  · obtain ⟨length, bounds, reels, lasts, found, division, parts, _⟩ :=
      @filmDivided endlessReel rfl (by decide)
    have exact' : endlessReel.length = .ok ⟨134400⟩ := rfl
    obtain rfl := Except.ok.inj (exact'.symm.trans lasts)
    obtain rfl := divisionBounds division [0, 7] (by decide) fun frame => by
      simp only [Cut, endlessReel, halfFrames, most, List.mem_cons, List.not_mem_nil, or_false]
      omega
    exact ⟨reels, found, division, parts⟩

end Film
end Telecine
