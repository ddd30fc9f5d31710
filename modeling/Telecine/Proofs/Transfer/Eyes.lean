import Telecine.Proofs.Transfer.Ticks

/-! What each file of a set is given, whatever the set is given. The encoders of the files answer as
they like: an answer may depend on everything that was sent before it, and an encoder may fail. -/
namespace Telecine

def Delivery.eye : Delivery → Option Eye
  | .picture sight => some sight.eye
  | _ => none

def Delivery.forBoth : Delivery → Delivery
  | .picture sight => .picture { sight with eye := .both }
  | delivery => delivery

abbrev Encoders := List (Outlet × Delivery) → Outlet → Delivery → Except Halt Unit

namespace FileSet

def serve {m : Type → Type} [Monad m] (send : Outlet → Delivery → m (Except Halt Unit))
    (set : FileSet) (delivery : Delivery) : m (Except Halt Bool) :=
  match set.dispatch delivery with
  | .error failure => return .error (.failed failure)
  | .ok sends => do
    match ← sendAll send sends with
    | .ok () => return .ok !sends.isEmpty
    | .error halt => return .error halt

def logged (encoders : Encoders) (outlet : Outlet) (delivery : Delivery) :
    StateM (List (Outlet × Delivery)) (Except Halt Unit) :=
  fun log => (encoders log outlet delivery, log ++ [(outlet, delivery)])

def serveAll (encoders : Encoders) (set : FileSet) (calls : List Delivery) :
    StateM (List (Outlet × Delivery)) (List (Except Halt Bool)) :=
  calls.mapM (set.serve (logged encoders))

def Refuses (set : FileSet) (delivery : Delivery) : Prop :=
  set.isStereo = true ∧ delivery.eye = some .both

instance (set : FileSet) (delivery : Delivery) : Decidable (set.Refuses delivery) :=
  inferInstanceAs (Decidable (_ ∧ _))

def refusal : Halt := .failed (.internal "3D encoder set asked for a non-stereo frame")

def verdict (set : FileSet) (delivery : Delivery) : Except Halt Bool :=
  if set.Refuses delivery then .error refusal
  else .ok (set.isStereo || delivery.eye != some .right)

def sends (set : FileSet) : Delivery → List (Outlet × Delivery)
  | .picture picture => set.shown picture
  | delivery => set.outlets.map (·, delivery)

def Accepted (encoders : Encoders) : (log sends : List (Outlet × Delivery)) → Prop
  | _, [] => True
  | log, (outlet, delivery) :: rest => encoders log outlet delivery = .ok () ∧
    Accepted encoders (log ++ [(outlet, delivery)]) rest

def reaching (outlet : Outlet) (log : List (Outlet × Delivery)) : List Delivery :=
  (log.filter (·.1 = outlet)).map (·.2)

section Sends
variable {set : FileSet} {delivery : Delivery}

theorem refusesUntaken {picture : Picture} : set.Refuses (.picture picture) ↔ ¬set.Takes picture := by
  simp [Refuses, Takes, Delivery.eye]

theorem dispatchRefused (refused : set.Refuses delivery) :
    set.dispatch delivery = .error (.internal "3D encoder set asked for a non-stereo frame") := by
  cases delivery with
  | picture picture => exact dispatchUntaken (refusesUntaken.mp refused)
  | _ => simp [Refuses, Delivery.eye] at refused

theorem dispatchSends (taken : ¬set.Refuses delivery) : set.dispatch delivery = .ok (set.sends delivery) := by
  cases delivery with
  | picture picture => exact dispatchTaken (by simpa [refusesUntaken] using taken)
  | _ => rfl

theorem sendsRefused (refused : set.Refuses delivery) : set.sends delivery = [] := by
  cases delivery with
  | picture picture =>
    obtain ⟨image, eye, time, damaged⟩ := picture
    obtain ⟨stereo, both⟩ := refused
    obtain rfl : eye = .both := by simpa [Delivery.eye] using both
    cases set with
    | flat => simp [isStereo] at stereo
    | stereo => rfl
  | _ => simp [Refuses, Delivery.eye] at refused

theorem verdictTaken (taken : ¬set.Refuses delivery) :
    set.verdict delivery = .ok !(set.sends delivery).isEmpty := by
  rw [verdict, if_neg taken]
  cases delivery with
  | picture picture =>
    obtain ⟨image, eye, time, damaged⟩ := picture
    cases set <;> cases eye <;> first | rfl | exact absurd ⟨rfl, rfl⟩ taken
  | _ => cases set <;> rfl

end Sends

section Serve
variable {set : FileSet} {delivery : Delivery} {m : Type → Type} [Monad m]
  {send : Outlet → Delivery → m (Except Halt Unit)}

theorem serveRefused (refused : set.Refuses delivery) :
    set.serve send delivery = pure (.error refusal) := by
  rw [serve, dispatchRefused refused]
  rfl

theorem serveTaken (taken : ¬set.Refuses delivery) : set.serve send delivery = (do
    match ← sendAll send (set.sends delivery) with
    | .ok () => return set.verdict delivery
    | .error halt => return .error halt) := by
  rw [serve, dispatchSends taken, verdictTaken taken]

end Serve

section Logs
variable {encoders : Encoders} {set : FileSet} {log front back : List (Outlet × Delivery)}
  {outlet : Outlet} {delivery call : Delivery} {halt : Halt}

theorem runOn {σ α β : Type} (act : StateM σ α) (next : α → StateM σ β) (now : σ) :
    (act >>= next) now = next (act now).1 (act now).2 := rfl

theorem sendAllStep (encoders : Encoders) (outlet : Outlet) (delivery : Delivery)
    (rest log : List (Outlet × Delivery)) :
    sendAll (logged encoders) ((outlet, delivery) :: rest) log =
      match encoders log outlet delivery with
      | .ok () => sendAll (logged encoders) rest (log ++ [(outlet, delivery)])
      | .error halt => (.error halt, log ++ [(outlet, delivery)]) := by
  rw [sendAll, runOn, logged]
  cases encoders log outlet delivery <;> rfl

theorem sendAllAccepted {sends : List (Outlet × Delivery)} (accepted : Accepted encoders log sends) :
    sendAll (logged encoders) sends log = (.ok (), log ++ sends) := by
  induction sends generalizing log with
  | nil =>
    rw [List.append_nil]
    rfl
  | cons send rest ih =>
    obtain ⟨ok, later⟩ := accepted
    rw [List.append_cons log send rest, sendAllStep, ok]
    exact ih later

theorem sendAllFails (accepted : Accepted encoders log front)
    (fails : encoders (log ++ front) outlet delivery = .error halt) :
    sendAll (logged encoders) (front ++ (outlet, delivery) :: back) log =
      (.error halt, log ++ front ++ [(outlet, delivery)]) := by
  induction front generalizing log with
  | nil =>
    rw [List.append_nil] at fails
    rw [List.nil_append, sendAllStep, fails, List.append_nil]
  | cons send rest ih =>
    obtain ⟨ok, later⟩ := accepted
    rw [List.append_cons log send rest] at fails ⊢
    rw [List.cons_append, sendAllStep, ok]
    exact ih later fails

theorem acceptedAppend {first second : List (Outlet × Delivery)} :
    Accepted encoders log (first ++ second) ↔
      Accepted encoders log first ∧ Accepted encoders (log ++ first) second := by
  induction first generalizing log with
  | nil => simp [Accepted]
  | cons send rest ih => simp [Accepted, ih, and_assoc]

theorem serveAccepted (accepted : Accepted encoders log (set.sends delivery)) :
    set.serve (logged encoders) delivery log = (set.verdict delivery, log ++ set.sends delivery) := by
  by_cases refused : set.Refuses delivery
  · rw [serveRefused refused, sendsRefused refused, List.append_nil, verdict, if_pos refused]
    rfl
  · rw [serveTaken refused, runOn, sendAllAccepted accepted]
    rfl

theorem serveFails (sent : set.sends delivery = front ++ (outlet, call) :: back)
    (accepted : Accepted encoders log front)
    (fails : encoders (log ++ front) outlet call = .error halt) :
    set.serve (logged encoders) delivery log = (.error halt, log ++ front ++ [(outlet, call)]) := by
  have taken : ¬set.Refuses delivery := by
    intro refused
    rw [sendsRefused refused] at sent
    simp at sent
  rw [serveTaken taken, runOn, sent, sendAllFails accepted fails]
  rfl

theorem serveAllCons (calls : List Delivery) :
    serveAll encoders set (delivery :: calls) log =
      let first := set.serve (logged encoders) delivery log
      let rest := serveAll encoders set calls first.2
      (first.1 :: rest.1, rest.2) := by
  rw [serveAll, List.mapM_cons]
  rfl

theorem serveAllAppend (before after : List Delivery) :
    serveAll encoders set (before ++ after) log =
      let first := serveAll encoders set before log
      let rest := serveAll encoders set after first.2
      (first.1 ++ rest.1, rest.2) := by
  rw [serveAll, List.mapM_append]
  rfl

theorem serveAllAccepted {calls : List Delivery}
    (accepted : Accepted encoders log (calls.flatMap set.sends)) :
    serveAll encoders set calls log = (calls.map set.verdict, log ++ calls.flatMap set.sends) := by
  induction calls generalizing log with
  | nil =>
    rw [List.flatMap_nil, List.append_nil]
    rfl
  | cons call calls ih =>
    obtain ⟨now, later⟩ := acceptedAppend.mp accepted
    rw [serveAllCons, serveAccepted now]
    simp [ih later]

theorem serveAllLength (calls : List Delivery) :
    (serveAll encoders set calls log).1.length = calls.length := by
  induction calls generalizing log with
  | nil => rfl
  | cons call calls ih =>
    rw [serveAllCons]
    exact congrArg (· + 1) ih

theorem serveAllRefused (refused : set.Refuses call) (before after : List Delivery) :
    ∃ first second now, first.length = before.length ∧
      serveAll encoders set (before ++ after) log = (first ++ second, now) ∧
      serveAll encoders set (before ++ call :: after) log =
        (first ++ .error refusal :: second, now) := by
  refine ⟨_, _, _, serveAllLength before, serveAllAppend before after, ?_⟩
  rw [serveAllAppend]
  simp only [serveAllCons, serveRefused refused]
  rfl

theorem servedDropped {picture : Picture} :
    (set.serve (logged encoders) (.picture picture) log).1 = .ok false ↔
      set.isStereo = false ∧ picture.eye = .right := by
  constructor
  · intro dropped
    by_cases refused : set.Refuses (.picture picture)
    · rw [serveRefused refused] at dropped
      cases dropped
    · rw [serveTaken refused, runOn] at dropped
      cases sent : (sendAll (logged encoders) (set.sends (.picture picture)) log).1 with
      | error halt =>
        rw [sent] at dropped
        cases dropped
      | ok =>
        rw [sent] at dropped
        have verdict : set.verdict (.picture picture) = .ok false := dropped
        simpa [FileSet.verdict, refused, Delivery.eye] using verdict
  · rintro ⟨flat, right⟩
    have unsent : set.sends (.picture picture) = [] := by
      cases set with
      | flat => simp [sends, shown, right]
      | stereo => simp [isStereo] at flat
    have accepted : Accepted encoders log (set.sends (.picture picture)) := by
      rw [unsent]
      trivial
    rw [serveAccepted accepted]
    simp [verdict, Refuses, flat, right, Delivery.eye]

end Logs

section Projections
variable {both left right : Outlet}

theorem flatSends (calls : List Delivery) : calls.flatMap (flat both).sends =
    (calls.filter (·.eye ≠ some .right)).map fun call => (both, call.forBoth) := by
  induction calls with
  | nil => rfl
  | cons call calls ih =>
    rw [List.flatMap_cons, ih]
    cases call with
    | picture picture =>
      obtain ⟨image, eye, time, damaged⟩ := picture
      cases eye <;> rfl
    | _ => rfl

theorem reachingFlatMap (outlet : Outlet) (calls : List Delivery) (set : FileSet) :
    reaching outlet (calls.flatMap set.sends) =
      calls.flatMap fun call => reaching outlet (set.sends call) := by
  simp [reaching, List.filter_flatMap, List.map_flatMap]

theorem stereoSends (apart : left ≠ right) (calls : List Delivery) :
    let taken := calls.filter (¬(stereo left right).Refuses ·)
    reaching left (calls.flatMap (stereo left right).sends) = taken.filter (·.eye ≠ some .right) ∧
      reaching right (calls.flatMap (stereo left right).sends) =
        taken.filter (·.eye ≠ some .left) := by
  simp only [reachingFlatMap]
  induction calls with
  | nil => exact ⟨rfl, rfl⟩
  | cons call calls ih =>
    simp only [List.flatMap_cons, ih.1, ih.2]
    cases call with
    | picture picture =>
      obtain ⟨image, eye, time, damaged⟩ := picture
      cases eye <;> simp [reaching, sends, shown, Refuses, isStereo, Delivery.eye, apart, apart.symm]
    | _ =>
      simp [reaching, sends, outlets, Refuses, Delivery.eye, apart, apart.symm]

end Projections
end FileSet

namespace Dialogue
variable {Shown Question : Type} {Reply : Question → Type} {α β γ : Type}

theorem andThenDone (d : Dialogue Shown Question Reply α) : d.andThen .done = d := by
  induction d with
  | done => rfl
  | ask shown question next ih => exact congrArg (Dialogue.ask shown question) (funext ih)

theorem andThenTwice (d : Dialogue Shown Question Reply α)
    (first : Shown → α → Dialogue Shown Question Reply β)
    (second : Shown → β → Dialogue Shown Question Reply γ) :
    (d.andThen first).andThen second =
      d.andThen fun shown value => (first shown value).andThen second := by
  induction d with
  | done => rfl
  | ask shown question next ih => exact congrArg (Dialogue.ask shown question) (funext ih)

end Dialogue

instance {Shown Question : Type} {Reply : Question → Type} :
    LawfulMonad (Talk Shown Question Reply) :=
  .mk' _ (fun talk => funext fun shown => (talk shown).andThenDone) (fun _ _ => rfl)
    fun talk first second => funext fun shown =>
      (talk shown).andThenTwice (fun now value => first value now) fun now value => second value now

namespace Transfer

theorem servedThen (sends : List (Outlet × Delivery)) (next : Bool → Act Unit) :
    (do next (← ExceptT.mk (do
      match ← FileSet.sendAll deliver sends with
      | .ok () => return .ok !sends.isEmpty
      | .error halt => return .error halt))) = (do sendAll sends; next !sends.isEmpty) := by
  refine ExceptT.ext ?_
  simp only [sendAll, ExceptT.run_bind, ExceptT.run_mk, bind_assoc]
  congr 1
  funext answer
  cases answer <;> simp

theorem sendPictureServes (set : FileSet) (picture : Picture) : sendPicture set picture = (do
    change fun s => if picture.damaged then { s with damaged := s.damaged + 1 } else s
    if ← ExceptT.mk (set.serve deliver (.picture picture)) then pure ()
    else change fun s => { s with dropped := s.dropped + 1 }) := by
  unfold sendPicture dispatch FileSet.serve
  congr 1
  funext _
  cases set.dispatch (.picture picture) with
  | error failure => rfl
  | ok sends =>
    simp only
    rw [servedThen]
    cases sends with
    | nil => rfl
    | cons send rest => simp

theorem sendServes (set : FileSet) (delivery : Delivery) :
    (do sendAll (← dispatch set delivery)) =
      (do let _ ← ExceptT.mk (set.serve deliver delivery)) := by
  unfold dispatch FileSet.serve
  cases set.dispatch delivery with
  | error failure => rfl
  | ok sends =>
    simp only
    rw [servedThen]
    simp

end Transfer

namespace FileSet

structure Demultiplexed (encoders : Encoders) (set : FileSet) : Prop where
  served : ∀ log calls, Accepted encoders log (calls.flatMap set.sends) →
    serveAll encoders set calls log = (calls.map set.verdict, log ++ calls.flatMap set.sends)
  flat : ∀ both, set = .flat both → ∀ calls : List Delivery, calls.flatMap set.sends =
    (calls.filter (·.eye ≠ some .right)).map fun call => (both, call.forBoth)
  stereo : ∀ left right, set = .stereo left right → left ≠ right → ∀ calls : List Delivery,
    let taken := calls.filter (¬set.Refuses ·)
    reaching left (calls.flatMap set.sends) = taken.filter (·.eye ≠ some .right) ∧
      reaching right (calls.flatMap set.sends) = taken.filter (·.eye ≠ some .left)
  fanned : ∀ left right, set = .stereo left right → ∀ call : Delivery, call.eye = none →
    set.sends call = [(left, call), (right, call)]
  refused : ∀ log before call after, set.Refuses call →
    ∃ first second now, first.length = before.length ∧
      serveAll encoders set (before ++ after) log = (first ++ second, now) ∧
      serveAll encoders set (before ++ call :: after) log =
        (first ++ .error refusal :: second, now)
  dropped : ∀ log picture,
    (set.serve (logged encoders) (.picture picture) log).1 = .ok false ↔
      set.isStereo = false ∧ picture.eye = .right
  fails : ∀ log call front outlet delivery back halt,
    set.sends call = front ++ (outlet, delivery) :: back → Accepted encoders log front →
    encoders (log ++ front) outlet delivery = .error halt →
    set.serve (logged encoders) call log = (.error halt, log ++ front ++ [(outlet, delivery)])

theorem demultiplexed (encoders : Encoders) (set : FileSet) : Demultiplexed encoders set where
  served _ _ accepted := serveAllAccepted accepted
  flat := by
    rintro both rfl calls
    exact flatSends calls
  stereo := by
    rintro left right rfl apart calls
    exact stereoSends apart calls
  fanned := by
    rintro left right rfl call blind
    cases call with
    | picture => cases blind
    | _ => rfl
  refused _ before _ after refuses := serveAllRefused refuses before after
  dropped _ _ := servedDropped
  fails _ _ _ _ _ _ _ sent accepted fails := serveFails sent accepted fails

def twoFiles : FileSet := .stereo ⟨0, ⟨"film_L.mov"⟩⟩ ⟨1, ⟨"film_R.mov"⟩⟩

def sightFor (eye : Eye) : Delivery := .picture ⟨⟨0, 0, .empty⟩, eye, .zero, false⟩

def unfinishable : Encoders
  | _, ⟨1, _⟩, .finish => .error (.failed (.encode "cannot finish"))
  | _, _, _ => .ok ()

theorem demultiplexedTwoFiles :
    let left : Outlet := ⟨0, ⟨"film_L.mov"⟩⟩
    let right : Outlet := ⟨1, ⟨"film_R.mov"⟩⟩
    let sound : Delivery := .sound ⟨0, []⟩
    serveAll unfinishable twoFiles [sightFor .left, sightFor .both, sound] [] =
        ([.ok true, .error refusal, .ok true],
          [(left, sightFor .left), (left, sound), (right, sound)]) ∧
      twoFiles.serve (logged unfinishable) .finish [] =
        (.error (.failed (.encode "cannot finish")), [(left, .finish), (right, .finish)]) :=
  have files := demultiplexed unfinishable twoFiles
  ⟨files.served [] [sightFor .left, sightFor .both, .sound ⟨0, []⟩] ⟨rfl, rfl, rfl, trivial⟩,
    files.fails [] .finish [(⟨0, ⟨"film_L.mov"⟩⟩, .finish)] _ _ [] _ rfl ⟨rfl, trivial⟩ rfl⟩

end FileSet
end Telecine
