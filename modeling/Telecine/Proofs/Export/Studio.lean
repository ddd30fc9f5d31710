import Mathlib.Data.List.Nodup
import Telecine.Export.Production

/-! Encoders and onlookers with which nothing goes wrong, whatever they do, and a record of what the
encoders are given. Encoders are numbered as they are made. -/
namespace Telecine

structure Studio (ω : Type) where
  make : (number : Nat) → Eye → Path → ω → ω
  deliver : Outlet → Delivery → ω → ω
  stage : String → ω → ω
  progress : Float32 → ω → ω

namespace Studio

structure Floor (ω : Type) where
  world : ω
  made : Nat
  calls : List (Outlet × Delivery)

variable {ω : Type} (studio : Studio ω)

def hire (eye : Eye) (path : Path) : StateM (Floor ω) (Except Halt Nat) := fun floor =>
  (.ok floor.made,
    { floor with world := studio.make floor.made eye path floor.world, made := floor.made + 1 })

def give (outlet : Outlet) (delivery : Delivery) : StateM (Floor ω) (Except Halt Unit) := fun floor =>
  (.ok (), { floor with
    world := studio.deliver outlet delivery floor.world
    calls := floor.calls ++ [(outlet, delivery)] })

def observer : Observer (StateM (Floor ω)) where
  interrupted := return false
  stage name := modify fun floor => { floor with world := studio.stage name floor.world }
  progress fraction := modify fun floor =>
    { floor with world := studio.progress fraction floor.world }

end Studio

namespace FileSet

def opened (stereoscopic : Bool) (extension : String) (base : Path) (first : Nat) : FileSet :=
  if stereoscopic then
    .stereo ⟨first, eyePath base .left extension⟩ ⟨first + 1, eyePath base .right extension⟩
  else .flat ⟨first, eyePath base .both extension⟩

def openedAll (stereoscopic : Bool) (extension : String) (first : Nat) : List Path → List FileSet
  | [] => []
  | base :: rest =>
    let set := opened stereoscopic extension base first
    set :: openedAll stereoscopic extension (first + set.outlets.length) rest

section Opened
variable (stereoscopic : Bool) (extension : String) (first : Nat) (bases : List Path)

theorem openedLength : (openedAll stereoscopic extension first bases).length = bases.length := by
  induction bases generalizing first with
  | nil => rfl
  | cons base rest ih => exact congrArg (· + 1) (ih _)

theorem openedStereo : ∀ set ∈ openedAll stereoscopic extension first bases,
    set.isStereo = stereoscopic := by
  induction bases generalizing first with
  | nil => simp [openedAll]
  | cons base rest ih =>
    refine List.forall_mem_cons.mpr ⟨?_, ih _⟩
    cases stereoscopic <;> rfl

theorem openedNumbers : ∃ count,
    ((openedAll stereoscopic extension first bases).flatMap outlets).map Outlet.number =
      List.range' first count := by
  induction bases generalizing first with
  | nil => exact ⟨0, rfl⟩
  | cons base rest ih =>
    let set := opened stereoscopic extension base first
    obtain ⟨count, later⟩ := ih (first + set.outlets.length)
    have own : set.outlets.map Outlet.number = List.range' first set.outlets.length := by
      cases stereoscopic <;> rfl
    refine ⟨set.outlets.length + count, ?_⟩
    rw [openedAll, List.flatMap_cons, List.map_append, own, later, List.range'_append_1]

theorem openedApart : ((openedAll stereoscopic extension first bases).flatMap outlets).Nodup := by
  obtain ⟨count, numbers⟩ := openedNumbers stereoscopic extension first bases
  refine List.Nodup.of_map Outlet.number ?_
  rw [numbers]
  exact List.nodup_range'

variable {ω : Type} (studio : Studio ω)

theorem createOpens (base : Path) (floor : Studio.Floor ω) :
    ∃ world, create studio.hire stereoscopic base extension floor =
      (.ok (opened stereoscopic extension base floor.made),
        ⟨world, floor.made + (opened stereoscopic extension base floor.made).outlets.length,
          floor.calls⟩) := by
  cases stereoscopic <;> exact ⟨_, rfl⟩

theorem createAllOpens (floor : Studio.Floor ω) :
    ∃ world made, createAll studio.hire stereoscopic extension bases floor =
      (.ok (openedAll stereoscopic extension floor.made bases), ⟨world, made, floor.calls⟩) := by
  induction bases generalizing floor with
  | nil => exact ⟨_, _, rfl⟩
  | cons base rest ih =>
    obtain ⟨between, one⟩ := createOpens stereoscopic extension studio base floor
    obtain ⟨world, made, others⟩ := ih ⟨between,
      floor.made + (opened stereoscopic extension base floor.made).outlets.length, floor.calls⟩
    refine ⟨world, made, ?_⟩
    simp only [createAll, bind, StateT.bind, one, others]
    rfl

end Opened
end FileSet
end Telecine
