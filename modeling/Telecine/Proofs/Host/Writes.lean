import Telecine.Proofs.Host.Requests

/-! What is written to a file that is open: it goes on at the file's end, and nothing else on the disk
changes, neither the other files nor what any path leads to. -/
namespace Telecine

def listed (bytes : ByteArray) : List UInt8 := bytes.data.toList

@[simp] theorem listedEmpty : listed .empty = [] := rfl

@[simp] theorem listedAppend (first rest : ByteArray) :
    listed (first ++ rest) = listed first ++ listed rest := by
  simp [listed]

namespace Disk

variable {d after : Disk} {path other : Path} {place : Place} {number offset : Nat} {file : OpenFile}
  {links : Nat} {folders : List Nat} {route : List String}

section Pieces
variable (pieces : List ByteArray) (new : ByteArray)

@[simp] theorem joinedCons : joined (new :: pieces) = joined pieces ++ new := by
  simp [joined]

theorem sizesJoined (size : Nat) :
    pieces.foldl (fun size piece => size + piece.size) size = size + (joined pieces).size := by
  induction pieces generalizing size with
  | nil => rfl
  | cons piece rest ih =>
    rw [List.foldl_cons, ih, joinedCons, ByteArray.size_append]
    omega

theorem writtenEnd : written pieces (joined pieces).size new = new :: pieces := by
  rw [written, sizesJoined, Nat.zero_add, if_pos rfl]

theorem writeEnd : d.write (.file number (d.bytesOf number).size) new =
    .ok (.file number ((d.bytesOf number).size + new.size),
      d.setPieces number (new :: d.piecesOf number)) := by
  rw [write, bytesOf, writtenEnd]

theorem bytesOfEnd :
    (d.setPieces number (new :: d.piecesOf number)).bytesOf number = d.bytesOf number ++ new := by
  rw [bytesOf, setPiecesOf, if_pos rfl, joinedCons, bytesOf]

end Pieces

theorem reachesUse (way : Reaches d .create links folders route place) :
    Reaches d .use links folders route place := by
  induction way with
  | stay blank _ ih => exact .stay blank ih
  | back _ ih => exact .back ih
  | arrive proper plain => exact .arrive proper plain
  | enter proper onward folder _ ih => exact .enter proper onward folder ih
  | follow proper onward link _ _ ih => exact .follow proper onward link nofun ih

theorem Leads.use (leads : Leads d .create path place) : Leads d .use path place :=
  ⟨leads.named, leads.clean, leads.short, reachesUse leads.way⟩

def Names (d : Disk) (path : Path) (number : Nat) : Prop :=
  ∃ place, Leads d .use path place ∧ d.entryAt place = some (.file number)

theorem namesBytes (names : Names d path number) : d.bytesAt path = .ok (d.bytesOf number) := by
  obtain ⟨place, leads, there⟩ := names
  rw [bytesAt, leads.resolve, spotAt, there]

theorem createSolid (made : d.createFile path = .ok (file, after)) : Solid d after :=
  (createConfined (.refl (fun _ => True) d) (fun _ _ => trivial) made).1.toSolid

theorem createVacant (leads : Leads d .create path place) (vacant : d.entryAt place = none) :
    d.createFile path = .ok (.file d.fresh 0, d.addFile place) := by
  rw [createAt (placeForIff.mpr leads), vacant]

theorem createNames (made : d.createFile path = .ok (.file number offset, after)) :
    offset = 0 ∧ after.piecesOf number = [] ∧ Names after path number := by
  obtain ⟨place, found⟩ := createFound made
  have leads := ((placeForIff.mp found).solid (createSolid made)).use
  rw [createAt found] at made
  split at made
  · cases made
    exact ⟨rfl, (setPiecesOf (d := d.setEntry place _)).trans (if_pos rfl), place, leads,
      addFileAt.trans (if_pos rfl)⟩
  · next there =>
    cases made
    exact ⟨rfl, setPiecesOf.trans (if_pos rfl), place, leads, there⟩
  · cases made
  · cases made

theorem createOthers (made : d.createFile path = .ok (.file number offset, after)) {m : Nat}
    (apart : m ≠ number) : after.piecesOf m = d.piecesOf m := by
  obtain ⟨place, found⟩ := createFound made
  rw [createAt found] at made
  split at made
  · cases made
    exact (setPiecesOf (d := d.setEntry place _)).trans (if_neg apart)
  · cases made
    exact setPiecesOf.trans (if_neg apart)
  · cases made
  · cases made

theorem createStays (made : d.createFile path = .ok (file, after)) (names : Names d other number) :
    Names after other number := by
  obtain ⟨there, leads, named⟩ := names
  refine ⟨there, leads.solid (createSolid made), ?_⟩
  obtain ⟨place, found⟩ := createFound made
  rw [createAt found] at made
  split at made
  · next vacant =>
    cases made
    have apart : there ≠ place := fun same => by
      rw [same, vacant] at named
      cases named
    rw [addFileAt, if_neg apart, named]
  · cases made
    exact named
  · cases made
    exact named
  · cases made

end Disk

namespace Machine
open Disk

structure Wrote (number : Nat) (before after : Machine) : Prop where
  here : after.disk.here = before.disk.here
  entries : after.disk.entries = before.disk.entries
  others : ∀ m, m ≠ number → after.disk.piecesOf m = before.disk.piecesOf m
  tool : after.tool = before.tool
  invocations : after.invocations = before.invocations

namespace Wrote

variable {number m : Nat} {before middle after now : Machine} {path : Path}

theorem refl (number : Nat) (now : Machine) : Wrote number now now :=
  ⟨rfl, rfl, fun _ _ => rfl, rfl, rfl⟩

theorem trans (first : Wrote number before middle) (second : Wrote number middle after) :
    Wrote number before after :=
  ⟨second.here.trans first.here, second.entries.trans first.entries,
    fun m apart => (second.others m apart).trans (first.others m apart), second.tool.trans first.tool,
    second.invocations.trans first.invocations⟩

theorem pieces (number : Nat) (now : Machine) (pieces : List ByteArray) :
    Wrote number now { now with disk := now.disk.setPieces number pieces } :=
  ⟨rfl, rfl, fun _ apart => setPiecesOf.trans (if_neg apart), rfl, rfl⟩

theorem names (wrote : Wrote number before after) (named : Names before.disk path m) :
    Names after.disk path m := by
  obtain ⟨place, leads, there⟩ := named
  have same (place : Place) : after.disk.entryAt place = before.disk.entryAt place := by
    rw [entryAt, wrote.entries, entryAt]
  exact ⟨place, leads.solid ⟨wrote.here, fun place => .inl (same place)⟩, (same place).trans there⟩

end Wrote
end Machine
end Telecine
