import Telecine.Proofs.Clock.Partition

/-! What the test of a division comes to for the single times: the ends of neighbouring periods meet
exactly when each time of the film is in one period, and no other time is in any. -/
namespace Telecine.Period

variable {periods : List Period} {start stop length time : Time}

/-- Every time from `start` on and before `stop` is in exactly one of the periods, no other time is in any,
and the periods come in order. -/
structure Covered (periods : List Period) (start stop : Time) : Prop where
  full : ∀ p ∈ periods, p.isEmpty = false
  rising : periods.Pairwise fun p q => p.start.ticks < q.start.ticks
  once : ∀ time : Time, start.ticks ≤ time.ticks → time.ticks < stop.ticks →
    periods.countP (·.contains time) = 1
  nowhere : ∀ time : Time, ¬(start.ticks ≤ time.ticks ∧ time.ticks < stop.ticks) →
    periods.countP (·.contains time) = 0

inductive Tiles : Time → List Period → Time → Prop
  | ended (time : Time) : Tiles time [] time
  | next {start stop : Time} {p : Period} {rest : List Period} (begins : p.start = start)
      (full : p.isEmpty = false) (later : Tiles p.stop rest stop) : Tiles start (p :: rest) stop

theorem containsStart {p : Period} (full : p.isEmpty = false) : p.contains p.start = true := by
  simp only [isEmpty, decide_eq_false_iff_not] at full
  exact containsBounds.mpr ⟨Int.le_refl _, by omega⟩

theorem tilesForward (tiles : Tiles start periods stop) : start.ticks ≤ stop.ticks := by
  induction tiles with
  | ended => exact Int.le_refl _
  | next begins full later ih =>
    simp only [isEmpty, decide_eq_false_iff_not] at full
    rw [← begins]
    omega

theorem tilesContiguous (tiles : Tiles start periods stop) :
    contiguous periods = true ∧ ∀ p, periods.head? = some p → p.start = start := by
  induction tiles with
  | ended => exact ⟨rfl, by simp⟩
  | @next start stop p rest begins full later ih =>
    refine ⟨?_, fun q first => by cases Option.some.inj first; exact begins⟩
    cases rest with
    | nil => rfl
    | cons q rest =>
      simp only [contiguous, Bool.and_eq_true, decide_eq_true_eq]
      exact ⟨(ih.2 q rfl).symm, ih.1⟩

theorem tilesLast (tiles : Tiles start periods stop) (some : periods ≠ []) :
    periods.getLast?.map Period.stop = Option.some stop := by
  induction tiles with
  | ended => exact absurd rfl some
  | @next start stop p rest begins full later ih =>
    cases rest with
    | nil =>
      cases later
      rfl
    | cons q rest =>
      rw [List.getLast?_cons_cons]
      exact ih (List.cons_ne_nil _ _)

theorem tilesFull (tiles : Tiles start periods stop) : ∀ p ∈ periods, p.isEmpty = false := by
  induction tiles with
  | ended => simp
  | next begins full later ih => exact List.forall_mem_cons.mpr ⟨full, ih⟩

theorem contiguousTiles (joined : contiguous periods = true)
    (full : ∀ p ∈ periods, p.isEmpty = false) {first : Period} (head : periods.head? = some first)
    (last : periods.getLast?.map Period.stop = some length) : Tiles first.start periods length := by
  induction periods generalizing first with
  | nil => cases head
  | cons p rest ih =>
    cases Option.some.inj head
    obtain ⟨here, others⟩ := List.forall_mem_cons.mp full
    refine .next rfl here ?_
    cases rest with
    | nil =>
      cases Option.some.inj last
      exact .ended _
    | cons q rest =>
      simp only [contiguous, Bool.and_eq_true, decide_eq_true_eq] at joined
      rw [joined.1]
      exact ih joined.2 others rfl (by rwa [List.getLast?_cons_cons] at last)

theorem partitionTiles : partition periods length = true ↔ Tiles Time.zero periods length := by
  constructor
  · intro parts
    rcases partitionDivides parts with ⟨rfl, rfl⟩ | ⟨first, divides⟩
    · exact .ended _
    · rw [← divides.start]
      exact contiguousTiles divides.joined divides.full divides.head divides.last
  · intro tiles
    cases periods with
    | nil =>
      cases tiles
      rfl
    | cons p rest =>
      obtain ⟨joined, first⟩ := tilesContiguous tiles
      have full := tilesFull tiles
      simp only [partition, Bool.and_eq_true, Bool.not_eq_true', List.any_eq_false, Bool.not_eq_true,
        decide_eq_true_eq]
      exact ⟨⟨⟨first p rfl, full⟩, joined⟩, tilesLast tiles (List.cons_ne_nil _ _)⟩

theorem tilesCovered (tiles : Tiles start periods stop) : Covered periods start stop := by
  induction tiles with
  | ended time =>
    refine ⟨by simp, .nil, fun _ low high => ?_, fun _ _ => rfl⟩
    omega
  | @next start stop p rest begins full later ih =>
    subst begins
    have forward := tilesForward later
    have lasts : p.start.ticks < p.stop.ticks := by
      simpa [isEmpty] using full
    refine ⟨List.forall_mem_cons.mpr ⟨full, ih.full⟩, .cons (fun q member => ?_) ih.rising,
      fun time low high => ?_, fun time outside => ?_⟩
    · by_contra early
      have none := ih.nowhere q.start (by omega)
      exact absurd (containsStart (ih.full q member)) (List.countP_eq_zero.mp none q member)
    · rw [List.countP_cons]
      by_cases inside : time.ticks < p.stop.ticks
      · rw [ih.nowhere time (by omega), if_pos (containsBounds.mpr ⟨low, inside⟩)]
      · rw [ih.once time (by omega) high, if_neg fun held => inside (containsBounds.mp held).2]
    · rw [List.countP_cons, ih.nowhere time (by omega), if_neg fun held => ?_]
      have bounds := containsBounds.mp held
      omega

theorem coveredWithin (covered : Covered periods start stop) {p : Period} (member : p ∈ periods)
    (held : p.contains time = true) : start.ticks ≤ time.ticks ∧ time.ticks < stop.ticks := by
  by_contra outside
  exact List.countP_eq_zero.mp (covered.nowhere time outside) p member held

theorem coveredStart {p : Period} {rest : List Period} (covered : Covered (p :: rest) start stop) :
    p.start = start := by
  have inside := coveredWithin covered List.mem_cons_self
    (containsStart (covered.full p List.mem_cons_self))
  -- The time at which all starts is in some period, and no later one starts that early.
  have held : 0 < (p :: rest).countP (·.contains start) := by
    rw [covered.once start (Int.le_refl _) (by omega)]
    exact Nat.one_pos
  obtain ⟨q, member, held⟩ := List.countP_pos_iff.mp held
  have bounds := containsBounds.mp held
  refine congrArg Time.mk (Int.le_antisymm ?_ inside.1)
  rcases List.mem_cons.mp member with rfl | later
  · exact bounds.1
  · have after := List.rel_of_pairwise_cons covered.rising later
    omega

theorem coveredRest {p : Period} {rest : List Period} (covered : Covered (p :: rest) start stop) :
    p.stop.ticks ≤ stop.ticks ∧ Covered rest p.stop stop := by
  have full := covered.full p List.mem_cons_self
  have lasts : p.start.ticks < p.stop.ticks := by simpa [isEmpty] using full
  have first := congrArg Time.ticks (coveredStart covered)
  have within : p.contains ⟨p.stop.ticks - 1⟩ = true :=
    containsBounds.mpr ⟨by simp only; omega, by simp only; omega⟩
  have last := coveredWithin covered List.mem_cons_self within
  simp only at last
  refine ⟨by omega, fun q member => covered.full q (List.mem_cons_of_mem _ member),
    covered.rising.of_cons, fun time low high => ?_, fun time outside => ?_⟩
  · have one := covered.once time (by omega) high
    rwa [List.countP_cons_of_neg] at one
    exact fun held => by have := containsBounds.mp held; omega
  · by_contra some
    obtain ⟨q, member, held⟩ := List.countP_pos_iff.mp (Nat.pos_of_ne_zero some)
    have bounds := coveredWithin covered (List.mem_cons_of_mem _ member) held
    have one := covered.once time bounds.1 bounds.2
    have here : p.contains time = true := containsBounds.mpr ⟨by omega, by omega⟩
    rw [List.countP_cons, if_pos here] at one
    omega

theorem coveredTiles (covered : Covered periods start stop) (forward : start.ticks ≤ stop.ticks) :
    Tiles start periods stop := by
  induction periods generalizing start with
  | nil =>
    have same : start = stop := by
      refine congrArg Time.mk (Int.le_antisymm forward ?_)
      by_contra before
      exact absurd (covered.once start (Int.le_refl _) (by omega)) (by simp)
    exact same ▸ .ended _
  | cons p rest ih =>
    obtain ⟨onward, others⟩ := coveredRest covered
    exact .next (coveredStart covered) (covered.full p List.mem_cons_self) (ih others onward)

theorem partitionPointwise (periods : List Period) {length : Time} (begun : 0 ≤ length.ticks) :
    partition periods length = true ↔ Covered periods Time.zero length :=
  partitionTiles.trans ⟨tilesCovered, fun covered => coveredTiles covered begun⟩

theorem partitionPointwiseTwo :
    let reels : List Period := [⟨⟨0⟩, ⟨4000⟩⟩, ⟨⟨4000⟩, ⟨6000⟩⟩]
    0 ≤ (⟨6000⟩ : Time).ticks ∧ (partition reels ⟨6000⟩ = true ↔ Covered reels Time.zero ⟨6000⟩) ∧
      Covered reels Time.zero ⟨6000⟩ ∧ ¬Covered reels Time.zero ⟨6001⟩ :=
  ⟨by decide, partitionPointwise _ (by decide), (partitionPointwise _ (by decide)).mp rfl,
    fun covered => absurd ((partitionPointwise _ (by decide)).mpr covered) (by decide)⟩

end Telecine.Period
