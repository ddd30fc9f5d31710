import Mathlib.Logic.Relation
import Telecine.Host.Machine
import Telecine.Proofs.Host.Walks

/-! Programs that ask a machine, and what they keep: an invariant of the machine, for as long as each
request keeps it. -/
namespace Telecine
namespace Machine

variable {α β : Type} {inv : Machine → Prop} {post : α → Prop} {final : β → Prop}

def Keeps (inv : Machine → Prop) (act : StateM Machine α) (post : α → Prop) : Prop :=
  ∀ machine, inv machine → post (act machine).1 ∧ inv (act machine).2

theorem bindRuns (act : StateM Machine α) (next : α → StateM Machine β) (now : Machine) :
    (act >>= next) now = next (act now).1 (act now).2 := rfl

theorem keepsPure {value : α} (holds : post value) : Keeps inv (pure value) post :=
  fun _ kept => ⟨holds, kept⟩

theorem keepsBind {act : StateM Machine α} {next : α → StateM Machine β} (first : Keeps inv act post)
    (rest : ∀ value, post value → Keeps inv (next value) final) : Keeps inv (act >>= next) final := by
  intro machine kept
  obtain ⟨holds, kept⟩ := first machine kept
  rw [bindRuns]
  exact rest _ holds _ kept

theorem keepsThen {act : StateM Machine α} {next : α → StateM Machine β} {ends : β × Machine → Prop}
    (first : Keeps inv act post) (rest : ∀ value, post value → ∀ now, inv now → ends (next value now))
    {now : Machine} (kept : inv now) : ends ((act >>= next) now) := by
  obtain ⟨holds, kept⟩ := first now kept
  rw [bindRuns]
  exact rest _ holds _ kept

section Disks
variable {act : Disk → Except Cause (α × Disk)} {machine : Machine} {value : α} {disk : Disk} {cause : Cause}

theorem onDiskWorked (done : act machine.disk = .ok (value, disk)) :
    onDisk act machine = (.ok value, { machine with disk }) := by
  rw [onDisk, done]

theorem onDiskFailed (done : act machine.disk = .error cause) : onDisk act machine = (.error cause, machine) := by
  rw [onDisk, done]

end Disks

theorem keepsOnDisk {act : Disk → Except Cause (α × Disk)} {final : Except Cause α → Prop}
    (worked : ∀ machine value disk, inv machine → act machine.disk = .ok (value, disk) →
      final (.ok value) ∧ inv { machine with disk })
    (failed : ∀ cause, final (.error cause)) : Keeps inv (onDisk act) final := by
  intro machine kept
  rw [onDisk]
  split
  · exact ⟨failed _, kept⟩
  · next value disk done => exact worked machine value disk kept done

theorem keepsChanging {act : Disk → Except Cause Disk}
    (worked : ∀ machine disk, inv machine → act machine.disk = .ok disk → inv { machine with disk }) :
    Keeps inv (changing act) fun _ => True := by
  refine @keepsOnDisk _ _ _ (fun _ => True) ?_ fun _ => trivial
  intro machine value disk kept done
  refine ⟨trivial, worked machine disk kept ?_⟩
  cases made : act machine.disk with
  | error cause => simp [made, Except.map] at done
  | ok after => simpa [made, Except.map] using done

theorem keepsAsking {look : Disk → α} : Keeps inv (asking look) fun _ => True :=
  fun _ kept => ⟨trivial, kept⟩

end Machine

namespace Host
open Machine

def Above : Path → Path → Prop := Relation.TransGen fun path folder => path.parent? = some folder

inductive Made (path : Path) (first : Disk) : Disk → Prop
  | same : Made path first first
  | more {d after : Disk} {folder : Path} (before : Made path first d) (above : Above path folder)
      (made : d.makeFolder folder = .ok after) : Made path first after

structure Housed (path : Path) (first now : Machine) : Prop where
  made : Made path first.disk now.disk
  tool : now.tool = first.tool

variable {path folder : Path} {first : Machine}

theorem makeFolderKeeps (above : Above path folder) :
    Keeps (Housed path first) (makeFolder folder : StateM Machine _) fun _ => True := by
  refine keepsChanging ?_
  intro machine disk housed done
  exact ⟨housed.made.more above done, housed.tool⟩

theorem settleKeeps {inv : Machine → Prop} (made : Except Cause Unit) :
    Keeps inv (makeFoldersWithin.settle folder made : StateM Machine _) fun _ => True := by
  cases made with
  | ok => exact keepsPure trivial
  | error cause =>
    refine keepsBind keepsAsking ?_
    intro isFolder _
    split <;> exact keepsPure trivial

theorem makeFoldersKeeps (depth : Nat) (above : Above path folder) :
    Keeps (Housed path first) (makeFoldersWithin depth folder : StateM Machine _) fun _ => True := by
  induction depth generalizing folder with
  | zero => exact keepsPure trivial
  | succ depth ih =>
    rw [makeFoldersWithin]
    split
    · exact keepsPure trivial
    · refine keepsBind (makeFolderKeeps above) ?_
      intro made _
      split
      · exact keepsPure trivial
      · split
        · next parent found =>
          refine keepsBind (ih (above.tail found)) ?_
          intro higher _
          split
          · exact keepsPure trivial
          · exact keepsBind (makeFolderKeeps above) fun again _ => settleKeeps again
        · exact keepsPure trivial
      · exact settleKeeps _

theorem madeGrows {first d : Disk} (made : Made path first d) :
    d.here = first.here ∧ d.contents = first.contents ∧ ∀ place, d.entryAt place = first.entryAt place ∨
      first.entryAt place = none ∧ ∃ number, d.entryAt place = some (.folder number) := by
  induction made with
  | same => exact ⟨rfl, rfl, fun _ => .inl rfl⟩
  | @more d after folder _ _ made ih =>
    obtain ⟨here, contents, entries⟩ := ih
    rw [Disk.makeFolder, Disk.addEntry] at made
    split at made
    · cases made
    · next there resolved =>
      cases made
      refine ⟨here, contents, ?_⟩
      intro place
      rw [Disk.setEntryAt]
      split
      · next same =>
        subst same
        have vacant : d.entryAt place = none :=
          @Disk.resolveVacant { d with fresh := d.fresh + 1 } _ _ _ resolved
        refine .inr ⟨?_, _, rfl⟩
        rcases entries place with same | ⟨_, number, folder⟩
        · rw [← same, vacant]
        · rw [vacant] at folder
          cases folder
      · exact entries place
    · cases made

end Host
end Telecine
