import Telecine.Host.Disk

/-! What a change of a disk leaves alone. It is confined to some places when all else stays: what every
other name leads to, and the bytes of every file that is at none of them. Folders and links stay there as
well, so that a path leads to the same place before and after. -/
namespace Telecine
namespace Disk

variable {d before middle after base now : Disk} {place other : Place} {entry : Entry} {number : Nat}
  {scope wider : Place → Prop}

section Lookup

theorem findWithout {κ β : Type} [DecidableEq κ] (rows : List (κ × β)) (key other : κ) :
    (rows.filter (·.1 ≠ key)).find? (·.1 = other) =
      if other = key then none else rows.find? (·.1 = other) := by
  rw [List.find?_filter]
  split
  · next same =>
    subst same
    simp
  · next apart =>
    congr 1
    funext row
    by_cases here : row.1 = other
    · simp [here, apart]
    · simp [here]

@[simp] theorem setEntryAt :
    (d.setEntry place entry).entryAt other = if other = place then some entry else d.entryAt other := by
  rw [entryAt, setEntry, List.find?_cons, findWithout]
  by_cases same : other = place
  · simp [same]
  · simp [same, Ne.symm same, entryAt]

@[simp] theorem dropEntryAt :
    (d.dropEntry place).entryAt other = if other = place then none else d.entryAt other := by
  rw [entryAt, dropEntry, findWithout]
  split <;> rfl

@[simp] theorem setPiecesOf {pieces : List ByteArray} {m : Nat} :
    (d.setPieces number pieces).piecesOf m = if m = number then pieces else d.piecesOf m := by
  rw [piecesOf, setPieces, List.find?_cons, findWithout]
  by_cases same : m = number
  · simp [same]
  · simp [same, Ne.symm same, piecesOf]

@[simp] theorem addFileAt :
    (d.addFile place).entryAt other = if other = place then some (.file d.fresh) else d.entryAt other :=
  setEntryAt

end Lookup

inductive Plain : Option Entry → Prop
  | nothing : Plain none
  | file (number : Nat) : Plain (some (.file number))
  | device (full : Bool) : Plain (some (.device full))

structure Solid (before after : Disk) : Prop where
  here : after.here = before.here
  entries : ∀ place, after.entryAt place = before.entryAt place ∨
    Plain (before.entryAt place) ∧ Plain (after.entryAt place)

/-- A number that is not in use, or that of a file at one of the places. -/
def Loose (scope : Place → Prop) (d : Disk) (number : Nat) : Prop :=
  d.fresh ≤ number ∨ ∃ place, scope place ∧ d.entryAt place = some (.file number)

structure Confined (scope : Place → Prop) (before after : Disk) : Prop extends Solid before after where
  fresh : before.fresh ≤ after.fresh
  others : ∀ place, ¬ scope place → after.entryAt place = before.entryAt place
  numbers : ∀ place number, scope place → after.entryAt place = some (.file number) →
    Loose scope before number
  bytes : ∀ number, ¬ Loose scope before number → after.bytesOf number = before.bytesOf number

namespace Solid

theorem symm (solid : Solid before after) : Solid after before where
  here := solid.here.symm
  entries place := (solid.entries place).imp Eq.symm And.symm

theorem plain (solid : Solid before after) (here : Plain (before.entryAt place)) :
    Plain (after.entryAt place) := by
  rcases solid.entries place with same | ⟨_, plain⟩
  · rwa [same]
  · exact plain

theorem kept (solid : Solid before after) (here : before.entryAt place = some entry)
    (leads : ¬ Plain (some entry)) : after.entryAt place = some entry := by
  rcases solid.entries place with same | ⟨plain, _⟩
  · rw [same, here]
  · exact absurd (here ▸ plain) leads

end Solid

namespace Confined

theorem refl (scope : Place → Prop) (d : Disk) : Confined scope d d where
  here := rfl
  entries _ := .inl rfl
  fresh := Nat.le_refl _
  others _ _ := rfl
  numbers place _ inside found := .inr ⟨place, inside, found⟩
  bytes _ _ := rfl

theorem loose (first : Confined scope before middle) (later : Loose scope middle number) :
    Loose scope before number := by
  rcases later with unused | ⟨place, inside, found⟩
  · exact .inl (Nat.le_trans first.fresh unused)
  · exact first.numbers place number inside found

theorem trans (first : Confined scope before middle) (second : Confined scope middle after) :
    Confined scope before after where
  here := second.here.trans first.here
  entries place := by
    rcases second.entries place with same | ⟨plain, later⟩
    · rw [same]
      exact first.entries place
    · exact .inr ⟨first.toSolid.symm.plain plain, later⟩
  fresh := Nat.le_trans first.fresh second.fresh
  others place outside := (second.others place outside).trans (first.others place outside)
  numbers place number inside found := first.loose (second.numbers place number inside found)
  bytes number kept := (second.bytes number fun later => kept (first.loose later)).trans
    (first.bytes number kept)

theorem widen (change : Confined scope before after) (more : ∀ place, scope place → wider place) :
    Confined wider before after := by
  have looser : ∀ number, Loose scope before number → Loose wider before number :=
    fun _ => Or.imp_right fun ⟨place, inside, found⟩ => ⟨place, more place inside, found⟩
  refine ⟨change.toSolid, change.fresh, fun place outside => change.others place (mt (more place) outside),
    ?_, fun number kept => change.bytes number (mt (looser number) kept)⟩
  intro place number inside found
  by_cases narrow : scope place
  · exact looser number (change.numbers place number narrow found)
  · exact .inr ⟨place, inside, (change.others place narrow).symm.trans found⟩

theorem rewritten (change : Confined scope base now) (free : Loose scope base number)
    (pieces : List ByteArray) : Confined scope base (now.setPieces number pieces) := by
  refine ⟨⟨change.here, change.entries⟩, change.fresh, change.others, change.numbers, ?_⟩
  intro other kept
  have apart : other ≠ number := fun same => kept (same ▸ free)
  rw [← change.bytes other kept, bytesOf, bytesOf, setPiecesOf, if_neg apart]

theorem dropped (change : Confined scope base now) (inside : scope place)
    (plain : Plain (now.entryAt place)) : Confined scope base (now.dropEntry place) := by
  refine ⟨⟨change.here, ?_⟩, change.fresh, ?_, ?_, change.bytes⟩
  · intro other
    rw [dropEntryAt]
    split
    · next same =>
      subst same
      exact .inr ⟨change.toSolid.symm.plain plain, .nothing⟩
    · exact change.entries other
  · intro other outside
    have apart : other ≠ place := fun same => outside (same ▸ inside)
    rw [dropEntryAt, if_neg apart, change.others other outside]
  · intro other number within found
    rw [dropEntryAt] at found
    split at found
    · cases found
    · exact change.numbers other number within found

theorem added (change : Confined scope base now) (inside : scope place)
    (vacant : now.entryAt place = none) : Confined scope base (now.addFile place) := by
  have bare : Plain (now.entryAt place) := vacant ▸ .nothing
  refine ⟨⟨change.here, ?_⟩, Nat.le_succ_of_le change.fresh, ?_, ?_, ?_⟩
  · intro other
    rw [addFileAt]
    split
    · next same =>
      subst same
      exact .inr ⟨change.toSolid.symm.plain bare, .file _⟩
    · exact change.entries other
  · intro other outside
    have apart : other ≠ place := fun same => outside (same ▸ inside)
    rw [addFileAt, if_neg apart, change.others other outside]
  · intro other number within found
    rw [addFileAt] at found
    split at found
    · cases found
      exact .inl change.fresh
    · exact change.numbers other number within found
  · intro other kept
    have apart : other ≠ now.fresh := fun same => kept (.inl (same ▸ change.fresh))
    rw [← change.bytes other kept]
    show joined ((now.setPieces now.fresh []).piecesOf other) = _
    rw [setPiecesOf, if_neg apart, bytesOf]

end Confined
end Disk
end Telecine
