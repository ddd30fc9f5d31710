import Telecine.Proofs.Export.Names
import Telecine.Proofs.Export.Prepared

/-! What an export that was prepared is, whoever made its files: its film and its job were found to be in
order, and there is a set of files for every part of the film that has files of its own. -/
namespace Telecine
open Transfer

def Job.spans (job : Job) (reels : List Period) (length : Time) : List Period :=
  if job.splitReels then reels else [⟨Time.zero, length⟩]

section Binds
variable {ω α β : Type}

theorem boundOn {act : ExceptT Halt (StateM ω) α} {next : α → ExceptT Halt (StateM ω) β} {early : α}
    {world middle : ω} (ok : act.run world = (.ok early, middle)) :
    (act >>= next).run world = (next early).run middle := by
  show ExceptT.bindCont next (act.run world).1 (act.run world).2 = _
  rw [ok]
  rfl

theorem boundHalts {act : ExceptT Halt (StateM ω) α} {next : α → ExceptT Halt (StateM ω) β}
    {halt : Halt} {world middle : ω} (stops : act.run world = (.error halt, middle)) :
    (act >>= next).run world = (.error halt, middle) := by
  show ExceptT.bindCont next (act.run world).1 (act.run world).2 = _
  rw [stops]
  rfl

theorem boundOk {act : ExceptT Halt (StateM ω) α} {next : α → ExceptT Halt (StateM ω) β} {world last : ω}
    {result : β} (ok : (act >>= next).run world = (.ok result, last)) :
    ∃ early middle, act.run world = (.ok early, middle) ∧
      (next early).run middle = (.ok result, last) := by
  rcases first : act.run world with ⟨outcome, middle⟩
  cases outcome with
  | ok early => exact ⟨early, middle, rfl, (boundOn first).symm.trans ok⟩
  | error halt => cases (boundHalts first).symm.trans ok

theorem heldOk {value : Except Halt α} {world last : ω} {result : α}
    (ok : (ExceptT.mk (pure value) : ExceptT Halt (StateM ω) α).run world = (.ok result, last)) :
    value = .ok result := congrArg Prod.fst ok

theorem checkedOk {value : Checked α} {world last : ω} {result : α}
    (ok : (ExceptT.mk (pure (Halt.ofChecked value)) : ExceptT Halt (StateM ω) α).run world =
      (.ok result, last)) : value = .ok result := by
  cases value <;> cases heldOk ok
  rfl

theorem newOk {plan : Plan} {sets : List FileSet} {t : Transfer}
    (ok : Halt.ofFailure (Transfer.new plan sets) = .ok t) :
    Accepted plan sets ∧ t = ⟨plan, sets, Status.new plan.rates.picture plan.length, false⟩ := by
  cases new : Transfer.new plan sets with
  | error failure =>
    rw [new] at ok
    cases ok
  | ok made =>
    rw [new] at ok
    cases ok
    exact newAccepted.mp new

end Binds

section Files
open TestCard
variable {film : Film} {extension : String} {ω : Type} {make : Eye → Path → StateM ω (Except Halt Nat)}

theorem createNamed {base : Path} {world last : ω} {set : FileSet}
    (ok : FileSet.create make film.stereoscopic base extension world = (.ok set, last)) :
    set.outlets.map Outlet.path = (eyes film).map (eyePath base · extension) := by
  unfold eyes
  unfold FileSet.create at ok
  cases sides : film.stereoscopic with
  | true =>
    rw [sides] at ok
    obtain ⟨left, _, first, ok⟩ := boundOk ok
    obtain ⟨right, _, second, ok⟩ := boundOk ok
    obtain ⟨_, _, _, first⟩ := boundOk first
    obtain ⟨_, _, _, second⟩ := boundOk second
    cases first
    cases second
    cases ok
    rfl
  | false =>
    rw [sides] at ok
    obtain ⟨both, _, first, ok⟩ := boundOk ok
    obtain ⟨_, _, _, first⟩ := boundOk first
    cases first
    cases ok
    rfl

theorem createAllNamed {bases : List Path} {world last : ω} {sets : List FileSet}
    (ok : FileSet.createAll make film.stereoscopic extension bases world = (.ok sets, last)) :
    sets.length = bases.length ∧ (sets.flatMap FileSet.outlets).map Outlet.path =
      bases.flatMap fun base => (eyes film).map (eyePath base · extension) := by
  induction bases generalizing world sets with
  | nil =>
    cases ok
    exact ⟨rfl, rfl⟩
  | cons base rest ih =>
    simp only [FileSet.createAll, bind, StateT.bind] at ok
    rcases first : FileSet.create make film.stereoscopic base extension world with ⟨outcome, middle⟩
    rw [first] at ok
    cases outcome with
    | error halt => cases ok
    | ok set =>
      rcases others : FileSet.createAll make film.stereoscopic extension rest middle with ⟨outcome, end'⟩
      simp only [StateT.bind, others] at ok
      cases outcome with
      | error halt => cases ok
      | ok more =>
        cases ok
        obtain ⟨count, named⟩ := ih others
        refine ⟨congrArg (· + 1) count, ?_⟩
        rw [List.flatMap_cons, List.map_append, createNamed first, named, List.flatMap_cons]

end Files

section Prepared
variable {film : Film} {job : Job} {feed : Unit → Feed} {ω : Type}
  {make : Eye → Path → StateM ω (Except Halt Nat)} {world opened : ω} {p : Production}

theorem lengthWhole (fit : film.Fit) {length : Time} (lasts : film.length = .ok length) :
    ∃ last : Nat, film.lengthFrames = last ∧ 0 < last ∧ FitsInt64 (last * Time.ticksPerSecond) ∧
      length = tickStart film.rates.pictureTicks last := by
  obtain ⟨last, whole⟩ := Int.eq_ofNat_of_zero_le (Int.le_of_lt fit.length)
  have some := fit.length
  have fits : FitsInt64 (last * Time.ticksPerSecond) := by
    by_contra past
    rw [Film.length, whole, Time.ofFrames, if_neg fit.rate,
      int64_eq_error_iff.mpr ⟨past, rfl⟩] at lasts
    cases lasts
  rw [Film.length, whole, ofFramesWhole fit.rate fit.divides fits] at lasts
  exact ⟨last, whole, by omega, fits, (Except.ok.inj lasts).symm⟩

theorem prepareSteps (ok : Production.prepare film job feed make world = (.ok p, opened)) :
    film.validate = .ok () ∧ job.validate = .ok () ∧ ∃ reels sets mix plan middle later,
      film.reels = .ok reels ∧
      FileSet.createAll make film.stereoscopic job.format.extension
        (job.bases (Production.setCount job reels)) middle = (.ok sets, later) ∧
      job.mix film = .ok mix ∧ Production.planOf film job reels = .ok plan ∧
      Halt.ofFailure (Transfer.new plan sets) = .ok p.transfer := by
  unfold Production.prepare at ok
  cases valid : film.validate with
  | error defect =>
    rw [valid] at ok
    cases ok
  | ok =>
    cases accepted : job.validate with
    | error failure =>
      rw [valid, accepted] at ok
      cases ok
    | ok =>
      rw [valid, accepted] at ok
      obtain ⟨reels, _, cut, ok⟩ := boundOk ok
      obtain ⟨sets, _, made, ok⟩ := boundOk ok
      obtain ⟨mix, _, mixed, ok⟩ := boundOk ok
      obtain ⟨source, _, _, ok⟩ := boundOk ok
      obtain ⟨plan, _, planned, ok⟩ := boundOk ok
      obtain ⟨t, _, new, ok⟩ := boundOk ok
      cases ok
      exact ⟨rfl, rfl, reels, sets, mix, plan, _, _, checkedOk cut, made, checkedOk mixed,
        checkedOk planned, heldOk new⟩

end Prepared
end Telecine
