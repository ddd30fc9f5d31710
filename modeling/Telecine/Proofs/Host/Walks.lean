import Telecine.Proofs.Host.Changes

/-! Where a path leads. The way there goes through folders and links only, so it is the same as long as
those stay, whatever becomes of what stands at its end. -/
namespace Telecine

def Spot.place? : Spot → Option Place
  | .folder _ => none
  | .found place _ => some place
  | .vacant place => some place

namespace Disk

def placeFor (d : Disk) (path : Path) : Option Place :=
  match d.resolve .create path with
  | .ok spot => spot.place?
  | .error _ => none

def spotAt (d : Disk) (place : Place) : Spot :=
  match d.entryAt place with
  | none => .vacant place
  | some entry => .found place entry

theorem spotAtPlace {d : Disk} {place : Place} : (d.spotAt place).place? = some place := by
  rw [spotAt]
  split <;> rfl

structure Proper (name : String) : Prop where
  stays : ¬ (name = "" ∨ name = ".")
  inwards : name ≠ ".."
  short : ¬ name.utf8ByteSize > maxName

/-- Not only slashes follow, so that the path does not have to be that of a folder. -/
def Onward (route : List String) : Prop := route = [] ∨ route.all (· = "") = false

inductive Reaches (d : Disk) (purpose : Purpose) : Nat → List Nat → List String → Place → Prop
  | stay {links folders name route place} (blank : name = "" ∨ name = ".")
      (rest : Reaches d purpose links folders route place) :
      Reaches d purpose links folders (name :: route) place
  | back {links folders route place} (rest : Reaches d purpose links (outwards folders) route place) :
      Reaches d purpose links folders (".." :: route) place
  | arrive {links folders name} (proper : Proper name)
      (plain : Plain (d.entryAt (folders.headD 0, name))) :
      Reaches d purpose links folders [name] (folders.headD 0, name)
  | enter {links folders name route place number} (proper : Proper name) (onward : Onward route)
      (folder : d.entryAt (folders.headD 0, name) = some (.folder number))
      (rest : Reaches d purpose links (number :: folders) route place) :
      Reaches d purpose links folders (name :: route) place
  | follow {links folders name route place target} (proper : Proper name) (onward : Onward route)
      (link : d.entryAt (folders.headD 0, name) = some (.link target))
      (meant : ¬ (route = [] ∧ purpose = .entry))
      (rest : Reaches d purpose links (startOf target folders) (names target ++ route) place) :
      Reaches d purpose (links + 1) folders (name :: route) place

variable {d before after : Disk} {purpose : Purpose} {links : Nat} {folders : List Nat}
  {route : List String} {path : Path} {place : Place} {spot : Spot}

theorem Onward.notFolder (onward : Onward route) :
    ¬ (purpose = .create ∧ route.all (· = "") = true ∧ route ≠ []) := by
  rintro ⟨_, blank, some⟩
  rcases onward with none | more
  · exact some none
  · rw [blank] at more
    cases more

theorem Proper.walk {name : String} (proper : Proper name) (onward : Onward route) :
    d.walk purpose links folders (name :: route) =
      match d.entryAt (folders.headD 0, name) with
      | none => if route.all (· = "") then .ok (.vacant (folders.headD 0, name)) else .error .missing
      | some (.folder number) => d.walk purpose links (number :: folders) route
      | some (.link target) =>
        if route = [] ∧ purpose = .entry then .ok (.found (folders.headD 0, name) (.link target))
        else match links with
          | 0 => .error .tooManyLinks
          | links + 1 => d.walk purpose links (startOf target folders) (names target ++ route)
      | some entry => if route = [] then .ok (.found (folders.headD 0, name) entry) else .error .notFolder := by
  rw [Disk.walk, if_neg proper.stays, if_neg proper.inwards, if_neg onward.notFolder]
  exact if_neg proper.short

theorem Proper.enters {name : String} {number : Nat} (proper : Proper name) (onward : Onward route)
    (folder : d.entryAt (folders.headD 0, name) = some (.folder number)) :
    d.walk purpose links folders (name :: route) = d.walk purpose links (number :: folders) route := by
  rw [proper.walk onward, folder]

theorem Proper.follows {name target : String} (proper : Proper name) (onward : Onward route)
    (link : d.entryAt (folders.headD 0, name) = some (.link target))
    (meant : ¬ (route = [] ∧ purpose = .entry)) :
    d.walk purpose (links + 1) folders (name :: route) =
      d.walk purpose links (startOf target folders) (names target ++ route) := by
  rw [proper.walk onward, link]
  exact if_neg meant

theorem reachesWalk (way : Reaches d purpose links folders route place) :
    Plain (d.entryAt place) ∧ d.walk purpose links folders route = .ok (d.spotAt place) := by
  induction way with
  | stay blank _ ih =>
    rw [walk, if_pos blank]
    exact ih
  | back _ ih =>
    rw [walk, if_neg (by decide), if_pos rfl]
    exact ih
  | arrive proper plain =>
    refine ⟨plain, ?_⟩
    rw [proper.walk (.inl rfl), spotAt]
    generalize d.entryAt _ = entry at plain ⊢
    cases plain <;> rfl
  | enter proper onward folder _ ih =>
    rw [proper.enters onward folder]
    exact ih
  | follow proper onward link meant _ ih =>
    rw [proper.follows onward link meant]
    exact ih

theorem Onward.ofCreate (kept : ¬ (Purpose.create = .create ∧ route.all (· = "") = true ∧ route ≠ [])) :
    Onward route := by
  by_cases none : route = []
  · exact .inl none
  · exact .inr (by simpa [none] using kept)

theorem walkReaches (walked : d.walk .create links folders route = .ok spot)
    (ends : spot.place? = some place) : Reaches d .create links folders route place := by
  fun_induction walk d .create links folders route with
  | case1 =>
    cases walked
    cases ends
  | case2 _ _ _ _ blank ih => exact .stay blank (ih walked)
  | case3 _ _ _ _ ih => exact .back (ih walked)
  | case6 links folders name route stays inwards last onward short there vacant blank =>
    cases walked
    rw [← Option.some.inj ends]
    have none : route = [] := (Onward.ofCreate onward).resolve_right fun more => by
      rw [show last = route.all (· = "") from rfl, more] at blank
      cases blank
    subst none
    exact .arrive ⟨stays, inwards, short⟩ (vacant ▸ .nothing)
  | case8 _ _ _ _ stays inwards _ onward short _ _ folder ih =>
    exact .enter ⟨stays, inwards, short⟩ (.ofCreate onward) folder (ih walked)
  | case9 _ _ _ _ _ _ _ _ _ _ _ _ ends => cases ends.2
  | case11 _ _ _ stays inwards _ onward short _ _ link meant _ ih =>
    exact .follow ⟨stays, inwards, short⟩ (.ofCreate onward) link meant (ih walked)
  | case12 _ _ name stays inwards short there entry folder link found =>
    cases walked
    rw [← Option.some.inj ends]
    have plain : Plain (some entry) := by
      cases entry with
      | folder number => exact (folder number rfl).elim
      | link target => exact (link target rfl).elim
      | file number => exact .file number
      | device full => exact .device full
    exact .arrive ⟨stays, inwards, short⟩ (found ▸ plain)
  | _ => cases walked

theorem walkVacant (walked : d.walk purpose links folders route = .ok (.vacant place)) :
    d.entryAt place = none := by
  fun_induction walk d purpose links folders route with
  | case2 _ _ _ _ _ ih => exact ih walked
  | case3 _ _ _ _ ih => exact ih walked
  | case6 _ _ _ _ _ _ _ _ _ _ vacant _ =>
    rw [← Spot.vacant.inj (Except.ok.inj walked)]
    exact vacant
  | case8 _ _ _ _ _ _ _ _ _ _ _ _ ih => exact ih walked
  | case11 _ _ _ _ _ _ _ _ _ _ _ _ _ ih => exact ih walked
  | _ => cases walked

theorem resolveVacant (resolved : d.resolve purpose path = .ok (.vacant place)) :
    d.entryAt place = none := by
  rw [resolve] at resolved
  split at resolved
  · cases resolved
  · split at resolved
    · cases resolved
    · split at resolved
      · cases resolved
      · exact walkVacant resolved

theorem Solid.reaches (solid : Solid before after)
    (way : Reaches before purpose links folders route place) :
    Reaches after purpose links folders route place := by
  induction way with
  | stay blank _ ih => exact .stay blank ih
  | back _ ih => exact .back ih
  | arrive proper plain => exact .arrive proper (solid.plain plain)
  | enter proper onward folder _ ih => exact .enter proper onward (solid.kept folder nofun) ih
  | follow proper onward link meant _ ih => exact .follow proper onward (solid.kept link nofun) meant ih

theorem reachesEntry (way : Reaches d .create links folders route place) :
    (∃ place target, d.walk .entry links folders route = .ok (.found place (.link target))) ∨
      Reaches d .entry links folders route place := by
  induction way with
  | stay blank _ ih =>
    rw [walk, if_pos blank]
    exact ih.imp_right (.stay blank)
  | back _ ih =>
    rw [walk, if_neg (by decide), if_pos rfl]
    exact ih.imp_right .back
  | arrive proper plain => exact .inr (.arrive proper plain)
  | enter proper onward folder _ ih =>
    rw [proper.enters onward folder]
    exact ih.imp_right (.enter proper onward folder)
  | @follow _ _ _ route _ _ proper onward link _ _ ih =>
    by_cases last : route = []
    · rw [proper.walk onward, link]
      exact .inl ⟨_, _, if_pos ⟨last, rfl⟩⟩
    · have meant : ¬ (route = [] ∧ Purpose.entry = .entry) := fun both => last both.1
      rw [proper.follows onward link meant]
      exact ih.imp_right (.follow proper onward link meant)

structure Leads (d : Disk) (purpose : Purpose) (path : Path) (place : Place) : Prop where
  named : path.text ≠ ""
  clean : ¬ path.text.toList.contains '\x00' = true
  short : ¬ path.text.utf8ByteSize > maxPath
  way : Reaches d purpose maxLinks (startOf path.text d.here) (names path.text) place

namespace Leads

theorem plain (leads : Leads d purpose path place) : Plain (d.entryAt place) :=
  (reachesWalk leads.way).1

theorem resolve (leads : Leads d purpose path place) : d.resolve purpose path = .ok (d.spotAt place) := by
  rw [Disk.resolve, if_neg leads.named, if_neg leads.clean, if_neg leads.short]
  exact (reachesWalk leads.way).2

theorem solid (leads : Leads before purpose path place) (solid : Solid before after) :
    Leads after purpose path place :=
  ⟨leads.named, leads.clean, leads.short, solid.here ▸ solid.reaches leads.way⟩

theorem entry (leads : Leads d .create path place)
    (unlinked : ∀ place target, d.resolve .entry path ≠ .ok (.found place (.link target))) :
    Leads d .entry path place := by
  refine ⟨leads.named, leads.clean, leads.short, (reachesEntry leads.way).resolve_left ?_⟩
  rintro ⟨there, target, found⟩
  refine unlinked there target ?_
  rw [Disk.resolve, if_neg leads.named, if_neg leads.clean, if_neg leads.short, found]

end Leads

theorem placeForIff : d.placeFor path = some place ↔ Leads d .create path place := by
  constructor
  · intro found
    rw [placeFor] at found
    split at found
    · next spot resolved =>
      rw [resolve] at resolved
      split at resolved
      · cases resolved
      · next named =>
        split at resolved
        · cases resolved
        · next clean =>
          split at resolved
          · cases resolved
          · next short => exact ⟨named, clean, short, walkReaches resolved found⟩
    · cases found
  · intro leads
    rw [placeFor, leads.resolve]
    exact spotAtPlace

theorem Solid.placeFor (solid : Solid before after) : after.placeFor path = before.placeFor path := by
  ext place
  constructor
  · intro found
    exact placeForIff.mpr ((placeForIff.mp found).solid solid.symm)
  · intro found
    exact placeForIff.mpr ((placeForIff.mp found).solid solid)

def Handles (scope : Place → Prop) (d : Disk) : OpenFile → Prop
  | .file number _ => Loose scope d number
  | .device _ => True

section Requests
variable {base now : Disk} {scope : Place → Prop} {file next : OpenFile}

theorem createAt (found : d.placeFor path = some place) :
    d.createFile path =
      match d.entryAt place with
      | none => .ok (.file d.fresh 0, d.addFile place)
      | some (.file number) => .ok (.file number 0, d.setPieces number [])
      | some (.device full) => .ok (.device full, d)
      | _ => .error .isFolder := by
  have leads := placeForIff.mp found
  rw [createFile, leads.resolve, spotAt]
  generalize d.entryAt place = entry
  rcases entry with _ | _ | _ | _ | _ <;> rfl

theorem createFound (made : d.createFile path = .ok (file, after)) :
    ∃ place, d.placeFor path = some place := by
  rw [createFile] at made
  rw [placeFor]
  split at made
  · cases made
  · next there number resolved => exact ⟨there, by rw [resolved]; rfl⟩
  · next there full resolved => exact ⟨there, by rw [resolved]; rfl⟩
  · next there resolved => exact ⟨there, by rw [resolved]; rfl⟩
  · cases made

theorem createWorks (found : d.placeFor path = some place) :
    ∃ file after, d.createFile path = .ok (file, after) := by
  rw [createAt found]
  have plain := (placeForIff.mp found).plain
  generalize d.entryAt place = entry at plain ⊢
  cases plain <;> exact ⟨_, _, rfl⟩

theorem createConfined (change : Confined scope base now)
    (inside : ∀ place, now.placeFor path = some place → scope place)
    (made : now.createFile path = .ok (file, after)) :
    Confined scope base after ∧ Handles scope base file := by
  obtain ⟨place, found⟩ := createFound made
  have within := inside place found
  rw [createAt found] at made
  split at made
  · next vacant =>
    cases made
    exact ⟨change.added within vacant, .inl change.fresh⟩
  · next number there =>
    cases made
    have free := change.numbers place number within there
    exact ⟨change.rewritten free [], free⟩
  · cases made
    exact ⟨change, trivial⟩
  · cases made

theorem createLeaves (made : d.createFile path = .ok (file, after)) :
    ∃ place entry, after.resolve .create path = .ok (.found place entry) := by
  obtain ⟨place, found⟩ := createFound made
  obtain ⟨change, _⟩ := createConfined (.refl (fun _ => True) d) (fun _ _ => trivial) made
  have leads := (placeForIff.mp found).solid change.toSolid
  have filled : ∃ entry, after.entryAt place = some entry := by
    rw [createAt found] at made
    split at made
    · cases made
      exact ⟨_, addFileAt.trans (if_pos rfl)⟩
    · next there =>
      cases made
      exact ⟨_, there⟩
    · next there =>
      cases made
      exact ⟨_, there⟩
    · cases made
  obtain ⟨entry, there⟩ := filled
  refine ⟨place, entry, ?_⟩
  rw [leads.resolve, spotAt, there]

theorem writeConfined (change : Confined scope base now) (handle : Handles scope base file)
    {bytes : ByteArray} (written : now.write file bytes = .ok (next, after)) :
    Confined scope base after ∧ Handles scope base next := by
  cases file with
  | file number offset =>
    cases written
    exact ⟨change.rewritten handle _, handle⟩
  | device full =>
    rw [write] at written
    split at written
    · cases written
    · cases written
      exact ⟨change, trivial⟩

theorem removeAt (leads : Leads d .entry path place) :
    d.removeFile path =
      match d.entryAt place with
      | none => .error .missing
      | some _ => .ok (d.dropEntry place) := by
  rw [removeFile, leads.resolve, spotAt]
  generalize d.entryAt place = entry
  cases entry <;> rfl

end Requests
end Disk
end Telecine
