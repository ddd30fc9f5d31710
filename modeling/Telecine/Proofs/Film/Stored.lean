import Telecine.Film.Store
import Telecine.Proofs.Film.Described
import Telecine.Proofs.Host.Writes

/-! Films in files. A film that was saved is loaded as the same film, and nothing that is loaded is unfit
to be exported, whatever the file holds. -/
namespace Telecine

theorem textBack (s : String) : String.fromUTF8? s.toUTF8 = some s := by
  have valid : s.toUTF8.IsValidUTF8 := s.isValidUTF8
  rw [String.fromUTF8?, dif_pos valid]
  rfl

namespace Disk

/-- What stands there is no device: what is written to it is there to be read. -/
def Keeps (d : Disk) (path : Path) : Prop :=
  ∀ place full, d.resolve .use path ≠ .ok (.found place (.device full))

theorem namesKeeps {d : Disk} {path : Path} {number : Nat} (names : Names d path number) : d.Keeps path := by
  obtain ⟨place, leads, there⟩ := names
  intro elsewhere full device
  rw [leads.resolve, spotAt, there] at device
  cases device

theorem namesPieces {d : Disk} {path : Path} {number m : Nat} {pieces : List ByteArray}
    (names : Names d path number) : Names (d.setPieces m pieces) path number := by
  obtain ⟨place, leads, there⟩ := names
  exact ⟨place, leads.solid ⟨rfl, fun _ => .inl rfl⟩, there⟩

theorem createDevice {d after : Disk} {path : Path} {full : Bool}
    (made : d.createFile path = .ok (.device full, after)) : after = d ∧ ¬d.Keeps path := by
  obtain ⟨place, found⟩ := createFound made
  have leads := (placeForIff.mp found).use
  rw [createAt found] at made
  split at made
  · cases made
  · cases made
  · next there =>
    cases made
    refine ⟨rfl, fun keeps => keeps place full ?_⟩
    rw [leads.resolve, spotAt, there]
  · cases made

theorem wroteWhole {d opened after : Disk} {path : Path} {file next : OpenFile} {bytes : ByteArray}
    (made : d.createFile path = .ok (file, opened)) (wrote : opened.write file bytes = .ok (next, after))
    (keeps : after.Keeps path) : after.bytesAt path = .ok bytes := by
  cases file with
  | device full =>
    obtain ⟨rfl, device⟩ := createDevice made
    rw [write] at wrote
    split at wrote
    · cases wrote
    · cases wrote
      exact absurd keeps device
  | file number offset =>
    obtain ⟨rfl, blank, names⟩ := createNames made
    have empty : opened.bytesOf number = .empty := by rw [bytesOf, blank]; rfl
    have ends := @writeEnd opened number bytes
    rw [empty] at ends
    obtain ⟨rfl, rfl⟩ := Prod.mk.inj (Except.ok.inj (wrote.symm.trans ends))
    rw [namesBytes (namesPieces names), bytesOfEnd, empty, ByteArray.empty_append]

end Disk

namespace Machine
open Disk

variable {before after : Machine} {path : Path} {text : String}

theorem writeTextRuns {machine : Machine} {file next : OpenFile} {opened written : Disk}
    (made : machine.disk.createFile path = .ok (file, opened))
    (put : opened.write file text.toUTF8 = .ok (next, written)) :
    (Host.writeText path text : StateM Machine _) machine = (.ok (), { machine with disk := written }) := by
  have first : (Host.createFile path : StateM Machine _) machine = _ := onDiskWorked made
  have second : (Host.write file text.toUTF8 : StateM Machine _) { machine with disk := opened } = _ :=
    onDiskWorked put
  rw [Host.writeText, bindRuns, first]
  simp only []
  rw [bindRuns, second]
  rfl

theorem writeTextParts (wrote : (Host.writeText path text : StateM Machine _) before = (.ok (), after)) :
    ∃ file next opened, before.disk.createFile path = .ok (file, opened) ∧
      opened.write file text.toUTF8 = .ok (next, after.disk) := by
  cases made : before.disk.createFile path with
  | error cause =>
    have failed : (Host.createFile path : StateM Machine _) before = _ := onDiskFailed made
    rw [Host.writeText, bindRuns, failed] at wrote
    cases wrote
  | ok created =>
    obtain ⟨file, opened⟩ := created
    cases put : opened.write file text.toUTF8 with
    | error cause =>
      have first : (Host.createFile path : StateM Machine _) before = _ := onDiskWorked made
      have failed : (Host.write file text.toUTF8 : StateM Machine _) { before with disk := opened } = _ :=
        onDiskFailed put
      rw [Host.writeText, bindRuns, first] at wrote
      simp only [] at wrote
      rw [bindRuns, failed] at wrote
      cases wrote
    | ok ended =>
      obtain ⟨next, written⟩ := ended
      rw [writeTextRuns made put] at wrote
      cases wrote
      exact ⟨file, next, opened, rfl, put⟩

theorem wroteReads (wrote : (Host.writeText path text : StateM Machine _) before = (.ok (), after))
    (keeps : after.disk.Keeps path) : after.disk.bytesAt path = .ok text.toUTF8 := by
  obtain ⟨_, _, _, made, put⟩ := writeTextParts wrote
  exact wroteWhole made put keeps

theorem wroteNew {machine : Machine} {place : Place} (leads : Leads machine.disk .create path place)
    (vacant : machine.disk.entryAt place = none) (text : String) :
    ∃ after, (Host.writeText path text : StateM Machine _) machine = (.ok (), after) ∧
      after.disk.Keeps path := by
  have made := createVacant leads vacant
  obtain ⟨_, _, names⟩ := createNames made
  exact ⟨_, writeTextRuns made rfl, namesKeeps (namesPieces names)⟩

end Machine

namespace Film
variable {f : Film} {before after : Machine} {path : Path}

theorem textEnds {text : String} {result : Except FilmProblem Unit}
    (wrote : (do return (← Host.writeText path text).mapError (FilmProblem.io path) :
      StateM Machine (Except FilmProblem Unit)) before = (result, after)) :
    (∃ cause, result = .error (.io path cause)) ∨
      result = .ok () ∧ (Host.writeText path text : StateM Machine _) before = (.ok (), after) := by
  rw [Machine.bindRuns] at wrote
  cases ran : (Host.writeText path text : StateM Machine _) before with
  | mk answer later =>
    rw [ran] at wrote
    cases answer with
    | error cause =>
      cases wrote
      exact .inl ⟨cause, rfl⟩
    | ok =>
      cases wrote
      exact .inr ⟨rfl, rfl⟩

theorem savedEnds {result : Except FilmProblem Unit}
    (saved : (f.save path : StateM Machine _) before = (result, after)) :
    (∃ place cause, result = .error (.io place cause)) ∨
      result = .ok () ∧ ∃ middle, (Host.writeText path f.write : StateM Machine _) middle = (.ok (), after) := by
  unfold Film.save at saved
  cases parent : path.parent? with
  | none =>
    rw [parent] at saved
    rcases textEnds saved with ⟨cause, same⟩ | ⟨same, wrote⟩
    · exact .inl ⟨path, cause, same⟩
    · exact .inr ⟨same, before, wrote⟩
  | some folder =>
    rw [parent] at saved
    simp only [] at saved
    rw [Machine.bindRuns] at saved
    generalize (Host.makeFolders folder : StateM Machine _) before = made at saved
    obtain ⟨cause | _, middle⟩ := made
    · cases saved
      exact .inl ⟨folder, cause, rfl⟩
    · rcases textEnds saved with ⟨cause, same⟩ | ⟨same, wrote⟩
      · exact .inl ⟨path, cause, same⟩
      · exact .inr ⟨same, middle, wrote⟩

theorem savedWrites (saved : (f.save path : StateM Machine _) before = (.ok (), after)) :
    ∃ middle, (Host.writeText path f.write : StateM Machine _) middle = (.ok (), after) := by
  rcases savedEnds saved with ⟨_, _, failed⟩ | ⟨_, wrote⟩
  · cases failed
  · exact wrote

theorem savedProblem {problem : FilmProblem}
    (saved : (f.save path : StateM Machine _) before = (.error problem, after)) :
    ∃ place cause, problem = .io place cause := by
  rcases savedEnds saved with ⟨place, cause, same⟩ | ⟨done, _⟩
  · exact ⟨place, cause, Except.error.inj same⟩
  · cases done

theorem loadReads (machine : Machine) (path : Path) :
    (Film.load path : StateM Machine _) machine =
      (match machine.disk.bytesAt path with
      | .error cause => .error (.io path cause)
      | .ok bytes =>
        match String.fromUTF8? bytes with
        | none => .error (.io path .notText)
        | some text => parse path text, machine) := by
  have asked : (Host.readFile path : StateM Machine _) machine = (machine.disk.bytesAt path, machine) := rfl
  rw [Film.load, Machine.bindRuns, Host.readText, Machine.bindRuns, asked]
  cases machine.disk.bytesAt path with
  | error cause => rfl
  | ok bytes =>
    simp only []
    cases String.fromUTF8? bytes <;> rfl

theorem parseRead {text : String} (read : Film.read text = some f) :
    parse path text =
      match f.validate with
      | .error defect => .error (.invalid defect)
      | .ok () => .ok f := by
  rw [parse, read]
  show (f.validate.mapError FilmProblem.invalid >>= fun _ => pure f) = _
  cases f.validate <;> rfl

theorem parseValid {text : String} (parsed : parse path text = .ok f) : f.validate = .ok () := by
  cases read : Film.read text with
  | none =>
    rw [parse, read] at parsed
    cases parsed
  | some found =>
    rw [parseRead read] at parsed
    split at parsed
    · cases parsed
    · next valid =>
      cases parsed
      exact valid

theorem loadValid (loaded : (Film.load path : StateM Machine _) before = (.ok f, after)) :
    f.validate = .ok () ∧ after = before := by
  rw [loadReads] at loaded
  obtain ⟨result, rfl⟩ := Prod.mk.inj loaded
  split at result
  · cases result
  · split at result
    · cases result
    · exact ⟨parseValid result, rfl⟩

theorem loadDescribed (fits : f.Describable) (flat whole : Bool) {machine : Machine}
    (there : machine.disk.bytesAt path = .ok (Json.write (f.described flat whole)).toUTF8) :
    (Film.load path : StateM Machine _) machine =
      (match (f.defaulted flat whole).validate with
      | .error defect => .error (.invalid defect)
      | .ok () => .ok (f.defaulted flat whole), machine) := by
  rw [loadReads, there]
  simp only [textBack]
  rw [parseRead (readDescribed fits flat whole)]

theorem savedLoads :
    (∀ (f : Film) (path : Path) (before after : Machine), f.validate = .ok () → f.Describable →
      (f.save path : StateM Machine _) before = (.ok (), after) → after.disk.Keeps path →
      (Film.load path : StateM Machine _) after = (.ok f, after)) ∧
    (∀ (f : Film) (path : Path) (before after : Machine),
      (Film.load path : StateM Machine _) before = (.ok f, after) →
      f.validate = .ok () ∧ after = before) ∧
    ∀ (f : Film) (path : Path) (machine : Machine) (flat whole : Bool), f.Describable →
      machine.disk.bytesAt path = .ok (Json.write (f.described flat whole)).toUTF8 →
      (Film.load path : StateM Machine _) machine =
        (match (f.defaulted flat whole).validate with
        | .error defect => .error (.invalid defect)
        | .ok () => .ok (f.defaulted flat whole), machine) := by
  refine ⟨fun f path before after valid fits saved keeps => ?_,
    fun f path before after loaded => loadValid loaded,
    fun f path machine flat whole fits there => loadDescribed fits flat whole there⟩
  obtain ⟨middle, wrote⟩ := savedWrites saved
  have there := Machine.wroteReads wrote keeps
  rw [Film.write, ← describedWhole] at there
  rw [loadDescribed fits false false there, defaultedWhole, valid]

def feature : Film :=
  ⟨"1.0", "Reel \"one\"\nfür\x01", ⟨25, 48000⟩, 2, true, 4, 2, 1500, .byLength 20⟩

def reelFile : Path := ⟨"film.json"⟩

def desk (disk : Disk) : Machine := ⟨disk, none, [], "", "", ⟨0, none⟩⟩

theorem featureFits : feature.Describable :=
  ⟨by decide, by decide, by decide, by decide, by decide, by decide, rfl⟩

theorem reelFileLeads : Disk.Leads .bare .create reelFile (0, "film.json") := by
  have named : Disk.names reelFile.text = ["film.json"] := by decide +kernel
  refine ⟨by decide +kernel, by decide +kernel, by decide +kernel, ?_⟩
  rw [named]
  exact .arrive ⟨by decide, by decide, by decide +kernel⟩ .nothing

theorem deskSaves (f : Film) : ∃ after,
    (f.save reelFile : StateM Machine _) (desk .bare) = (.ok (), after) ∧ after.disk.Keeps reelFile := by
  have above : reelFile.parent? = some ⟨""⟩ := by decide +kernel
  obtain ⟨after, wrote, keeps⟩ := @Machine.wroteNew _ (desk .bare) _ reelFileLeads rfl f.write
  refine ⟨after, ?_, keeps⟩
  have settled : (Host.makeFolders ⟨""⟩ : StateM Machine _) (desk .bare) = (.ok (), desk .bare) := rfl
  rw [Film.save, above]
  simp only []
  rw [Machine.bindRuns, settled]
  simp only []
  rw [Machine.bindRuns, wrote]
  rfl

theorem featureSavedLoads : ∃ after bare,
    feature.validate = .ok () ∧ feature.Describable ∧
    (feature.save reelFile : StateM Machine _) (desk .bare) = (.ok (), after) ∧
    after.disk.Keeps reelFile ∧
    (Film.load reelFile : StateM Machine _) after = (.ok feature, after) ∧
    bare.disk.bytesAt reelFile = .ok (Json.write (feature.described true true)).toUTF8 ∧
    (Film.load reelFile : StateM Machine _) bare =
      (.ok { feature with stereoscopic := false, layout := .single }, bare) := by
  obtain ⟨after, saved, keeps⟩ := deskSaves feature
  obtain ⟨bare, wrote, kept⟩ := @Machine.wroteNew _ (desk .bare) _ reelFileLeads rfl
    (Json.write (feature.described true true))
  have there := Machine.wroteReads wrote kept
  have loaded := savedLoads.1 feature reelFile _ after rfl featureFits saved keeps
  obtain ⟨valid, _⟩ := savedLoads.2.1 feature reelFile after after loaded
  exact ⟨after, bare, valid, featureFits, saved, keeps, loaded, there,
    savedLoads.2.2 feature reelFile bare true true featureFits there⟩

end Film
end Telecine
