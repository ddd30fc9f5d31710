import Telecine.CommandLine.Commands
import Telecine.Proofs.CommandLine.Typed
import Telecine.Proofs.Film.Stored

/-! Describing a new film: refused, not written, or written as a film that can be loaded and cut into
reels. The length is formed before anything is checked and the reels after the film was written, so a
length out of range is a fault before anything is asked, or after everything was done. -/
namespace Telecine.CommandLine

variable {a : NewFilm} {film : Film} {before after : Machine}

section Runs
variable {α β : Type}

theorem workRuns (first : Work (StateM Machine) α) (next : α → Work (StateM Machine) β) (now : Machine) :
    (first >>= next).run now = match first.run now with
      | (.ok value, later) => (next value).run later
      | (.error ending, later) => (.error ending, later) := by
  rw [ExceptT.run_bind, Machine.bindRuns]
  generalize first.run now = done
  obtain ⟨_ | _, later⟩ := done <;> rfl

theorem liftRuns (act : StateM Machine α) (now : Machine) :
    (ExceptT.lift act : Work (StateM Machine) α).run now = (.ok (act now).1, (act now).2) := rfl

theorem sureRuns (value : Checked α) (now : Machine) :
    (sure value : Work (StateM Machine) α).run now = (value.mapError .fault, now) := rfl

theorem orMessageRuns (result : Except FilmProblem α) (text : String) (now : Machine) :
    (orMessage result text : Work (StateM Machine) α).run now =
      (result.mapError fun problem => .message (text ++ problem.message) [], now) := rfl

theorem sayRuns (line : String) (now : Machine) :
    (say line : Work (StateM Machine) Unit).run now =
      (.ok (), { now with output := now.output ++ (line ++ "\n") }) := rfl

end Runs

def made (a : NewFilm) (machine : Machine) : Except Ending Unit × Machine :=
  (init a : Work (StateM Machine) Unit).run machine

theorem madeFaults {fault : Fault} (formed : filmOf a = .error fault) :
    made a before = (.error (.fault fault), before) := by
  rw [made, init, workRuns, sureRuns, formed]
  rfl

theorem madeRefuses {defect : Film.Defect} (formed : filmOf a = .ok film)
    (unfit : film.validate = .error defect) :
    made a before =
      (.error (.message ("Refusing to write film: " ++ (FilmProblem.invalid defect).message) []), before) := by
  simp only [made, init, workRuns, sureRuns, formed, orMessageRuns, unfit, Except.mapError]

theorem madeFails {problem : FilmProblem} (formed : filmOf a = .ok film) (valid : film.validate = .ok ())
    (saved : (film.save a.output : StateM Machine _) before = (.error problem, after)) :
    made a before = (.error (.message ("Failed to write film: " ++ problem.message) []), after) := by
  simp only [made, init, workRuns, sureRuns, formed, orMessageRuns, valid, liftRuns, saved, Except.mapError]

theorem madeWrites (formed : filmOf a = .ok film) (valid : film.validate = .ok ())
    (saved : (film.save a.output : StateM Machine _) before = (.ok (), after)) :
    ∃ output, made a before = (film.reels.mapError .fault |>.map fun _ => (), { after with output }) := by
  simp only [made, init, workRuns, sureRuns, formed, orMessageRuns, valid, liftRuns, saved, sayRuns,
    Except.mapError]
  cases film.reels <;> exact ⟨_, rfl⟩

theorem filmFormed (counted : FitsInt64 ((a.seconds : Int) * a.pictureRate)) : ∃ film, filmOf a = .ok film := by
  rw [filmOf, int64_eq_ok_iff.mpr ⟨counted, rfl⟩]
  exact ⟨_, rfl⟩

theorem formedAs (formed : filmOf a = .ok film) :
    FitsInt64 film.lengthFrames ∧ film = { Film.titled a.name a.pictureRate (a.seconds * a.pictureRate) with
      soundChannels := a.soundChannels
      width := a.width
      height := a.height
      stereoscopic := a.stereoscopic
      layout := match a.reelSeconds with | some seconds => .byLength seconds | none => .single } := by
  obtain ⟨_, length, done⟩ := checkedBound formed
  obtain ⟨fits, rfl⟩ := int64_eq_ok_iff.mp length
  cases done
  exact ⟨fits, rfl⟩

theorem formedFits (typed : a.Typed) (formed : filmOf a = .ok film) (readable : film.layout.Readable) :
    film.Describable := by
  obtain ⟨fits, rfl⟩ := formedAs formed
  have sound : 48000 < 4294967296 := by decide
  exact ⟨typed.picture, sound, typed.channels, typed.width, typed.height, fits, readable⟩

def Refused (film : Film) (before : Machine) (ran : Except Ending Unit × Machine) : Prop :=
  ∃ defect, film.validate = .error defect ∧
    ran = (.error (.message ("Refusing to write film: " ++ (FilmProblem.invalid defect).message) []), before)

def Unwritten (film : Film) (ran : Except Ending Unit × Machine) : Prop :=
  film.validate = .ok () ∧ ∃ place cause,
    ran.1 = .error (.message ("Failed to write film: " ++ (FilmProblem.io place cause).message) [])

structure Written (film : Film) (path : Path) (ran : Except Ending Unit × Machine) : Prop where
  ended : ran.1 = .ok ()
  valid : film.validate = .ok ()
  reels : ∃ reels, film.reels = .ok reels
  back : film.layout.Readable → ran.2.disk.Keeps path →
    (Film.load path : StateM Machine _) ran.2 = (.ok film, ran.2)

theorem writtenBack (typed : a.Typed) (formed : filmOf a = .ok film) (valid : film.validate = .ok ())
    (saved : (film.save a.output : StateM Machine _) before = (.ok (), after))
    (readable : film.layout.Readable) (keeps : after.disk.Keeps a.output) (output : String) :
    (Film.load a.output : StateM Machine _) { after with output } = (.ok film, { after with output }) := by
  obtain ⟨middle, wrote⟩ := Film.savedWrites saved
  have there := Machine.wroteReads wrote keeps
  rw [Film.write, ← Film.describedWhole] at there
  have fits := formedFits typed formed readable
  rw [@Film.loadDescribed _ _ fits false false { after with output } there, Film.defaultedWhole, valid]

theorem madeWritten (typed : a.Typed) (formed : filmOf a = .ok film) (valid : film.validate = .ok ())
    (saved : (film.save a.output : StateM Machine _) before = (.ok (), after)) {reels : List Period}
    (found : film.reels = .ok reels) : Written film a.output (made a before) := by
  obtain ⟨output, ran⟩ := madeWrites formed valid saved
  rw [found] at ran
  rw [ran]
  exact ⟨rfl, valid, ⟨reels, found⟩,
    fun readable keeps => writtenBack typed formed valid saved readable keeps output⟩

theorem madeEnds (formed : filmOf a = .ok film) :
    Refused film before (made a before) ∨ Unwritten film (made a before) ∨
      ∃ after output, film.validate = .ok () ∧
        (film.save a.output : StateM Machine _) before = (.ok (), after) ∧
        made a before = (film.reels.mapError .fault |>.map fun _ => (), { after with output }) := by
  cases valid : film.validate with
  | error defect => exact .inl ⟨defect, valid, madeRefuses formed valid⟩
  | ok =>
    cases saved : (film.save a.output : StateM Machine _) before with
    | mk result after =>
      cases result with
      | error problem =>
        obtain ⟨place, cause, rfl⟩ := Film.savedProblem saved
        exact .inr (.inl ⟨valid, place, cause, by rw [madeFails formed valid saved]⟩)
      | ok =>
        obtain ⟨output, ran⟩ := madeWrites formed valid saved
        exact .inr (.inr ⟨after, output, rfl, rfl, ran⟩)

theorem initFaults (a : NewFilm) (before : Machine) :
    (∃ fault, (made a before).1 = .error (.fault fault)) ↔
      ¬FitsInt64 ((a.seconds : Int) * a.pictureRate) ∨
      ∃ film after, filmOf a = .ok film ∧ film.validate = .ok () ∧
        (film.save a.output : StateM Machine _) before = (.ok (), after) ∧
        ¬FitsInt64 ((a.seconds : Int) * a.pictureRate * Time.ticksPerSecond) := by
  constructor
  · rintro ⟨fault, faulted⟩
    cases formed : filmOf a with
    | error other =>
      left
      intro counted
      obtain ⟨film, same⟩ := filmFormed counted
      cases formed.symm.trans same
    | ok film =>
      rcases madeEnds formed with ⟨_, _, ran⟩ | ⟨_, _, _, ran⟩ | ⟨after, _, valid, saved, ran⟩
      · rw [ran] at faulted
        cases faulted
      · rw [ran] at faulted
        cases faulted
      · obtain ⟨_, rfl⟩ := formedAs formed
        refine .inr ⟨_, after, rfl, valid, saved, fun placed => ?_⟩
        obtain ⟨reels, found⟩ := (Film.reelsExactly valid).mpr placed
        rw [ran, found] at faulted
        cases faulted
  · rintro (beyond | ⟨film, after, formed, valid, saved, beyond⟩)
    · cases formed : filmOf a with
      | error fault => exact ⟨fault, by rw [madeFaults formed]⟩
      | ok film =>
        obtain ⟨fits, rfl⟩ := formedAs formed
        exact absurd fits beyond
    · obtain ⟨output, ran⟩ := madeWrites formed valid saved
      obtain ⟨_, rfl⟩ := formedAs formed
      cases found : Film.reels _ with
      | error fault =>
        rw [found] at ran
        exact ⟨fault, by rw [ran]; rfl⟩
      | ok reels => exact absurd ((Film.reelsExactly valid).mp ⟨reels, found⟩) beyond

theorem initEnds (a : NewFilm) (before : Machine) (typed : a.Typed)
    (counted : FitsInt64 ((a.seconds : Int) * a.pictureRate))
    (placed : ∀ film, filmOf a = .ok film → film.validate = .ok () →
      FitsInt64 ((a.seconds : Int) * a.pictureRate * Time.ticksPerSecond)) :
    ∃ film, filmOf a = .ok film ∧ film.lengthFrames = a.seconds * a.pictureRate ∧
      let ran := made a before
      (Refused film before ran ∨ Unwritten film ran ∨ Written film a.output ran) ∧
        ¬(Refused film before ran ∧ Unwritten film ran) ∧
        ¬(Refused film before ran ∧ Written film a.output ran) ∧
        ¬(Unwritten film ran ∧ Written film a.output ran) := by
  obtain ⟨film, formed⟩ := filmFormed counted
  obtain ⟨_, same⟩ := formedAs formed
  have length : film.lengthFrames = a.seconds * a.pictureRate := by rw [same]; rfl
  refine ⟨film, formed, length, ?_, ?_, ?_, ?_⟩
  · rcases madeEnds formed with refused | unwritten | ⟨after, _, valid, saved, _⟩
    · exact .inl refused
    · exact .inr (.inl unwritten)
    · have fits := placed film formed valid
      rw [← length] at fits
      obtain ⟨reels, found⟩ := (Film.reelsExactly valid).mpr fits
      exact .inr (.inr (madeWritten typed formed valid saved found))
  · rintro ⟨⟨defect, unfit, _⟩, valid, _⟩
    cases unfit.symm.trans valid
  · rintro ⟨⟨defect, unfit, _⟩, written⟩
    cases unfit.symm.trans written.valid
  · rintro ⟨⟨_, place, cause, failed⟩, written⟩
    cases failed.symm.trans written.ended

def trailer : NewFilm := ⟨"trailer", Film.reelFile, 24, 90, 2, 4, 2, true, some 20⟩

theorem initEndsTrailer : ∃ film, filmOf trailer = .ok film ∧ film.lengthFrames = 2160 ∧
    trailer.Typed ∧ FitsInt64 ((trailer.seconds : Int) * trailer.pictureRate) ∧
    FitsInt64 ((trailer.seconds : Int) * trailer.pictureRate * Time.ticksPerSecond) ∧
    ∃ reels, film.reels = .ok reels ∧ (made trailer (Film.desk .bare)).1 = .ok () ∧
      (Film.load Film.reelFile : StateM Machine _) (made trailer (Film.desk .bare)).2 =
        (.ok film, (made trailer (Film.desk .bare)).2) := by
  have typed : trailer.Typed := ⟨by decide, by decide, by decide, by decide, by decide⟩
  have counted : FitsInt64 ((trailer.seconds : Int) * trailer.pictureRate) := by decide
  have placed : FitsInt64 ((trailer.seconds : Int) * trailer.pictureRate * Time.ticksPerSecond) := by decide
  obtain ⟨film, formed, length, ends, _⟩ := initEnds trailer (Film.desk .bare) typed counted
    fun _ _ _ => placed
  obtain ⟨_, same⟩ := formedAs formed
  have valid : film.validate = .ok () := by rw [same]; rfl
  have readable : film.layout.Readable := by rw [same]; rfl
  obtain ⟨after, saved, keeps⟩ := Film.deskSaves film
  obtain ⟨output, ran⟩ := madeWrites formed valid saved
  obtain ⟨reels, found⟩ := (Film.reelsExactly valid).mpr (by rw [length]; decide)
  rw [found] at ran
  rcases ends with ⟨_, unfit, _⟩ | ⟨_, _, _, failed⟩ | written
  · cases unfit.symm.trans valid
  · rw [ran] at failed
    cases failed
  · have kept : (made trailer (Film.desk .bare)).2.disk.Keeps Film.reelFile := by
      rw [ran]
      exact keeps
    exact ⟨film, formed, length, typed, counted, placed, reels, found, written.ended,
      written.back readable kept⟩

def endless : NewFilm := ⟨"endless", Film.reelFile, 4294967295, 4294967295, 6, 1998, 1080, false, none⟩

def dense : NewFilm := { endless with pictureRate := 96000 }

theorem initOverflows :
    made endless (Film.desk .bare) = (.error (.fault .overflow), Film.desk .bare) ∧
    ∃ film fault after, filmOf dense = .ok film ∧ film.validate = .ok () ∧
      made dense (Film.desk .bare) = (.error (.fault fault), after) ∧
      (Film.load Film.reelFile : StateM Machine _) after = (.ok film, after) := by
  refine ⟨madeFaults rfl, ?_⟩
  have typed : dense.Typed := ⟨by decide, by decide, by decide, by decide, by decide⟩
  obtain ⟨film, formed⟩ : ∃ film, filmOf dense = .ok film := ⟨_, rfl⟩
  obtain ⟨_, same⟩ := formedAs formed
  have valid : film.validate = .ok () := by rw [same]; rfl
  have readable : film.layout.Readable := by rw [same]; trivial
  have long : ¬FitsInt64 (film.lengthFrames * Time.ticksPerSecond) := by rw [same]; decide
  obtain ⟨after, saved, keeps⟩ := Film.deskSaves film
  obtain ⟨output, ran⟩ := madeWrites formed valid saved
  have back := writtenBack typed formed valid saved readable keeps output
  cases found : film.reels with
  | ok reels => exact absurd ((Film.reelsExactly valid).mp ⟨reels, found⟩) long
  | error fault =>
    rw [found] at ran
    exact ⟨film, fault, _, formed, valid, ran, back⟩

end Telecine.CommandLine
