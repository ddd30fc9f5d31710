import Telecine.Transfer.Run

/-! What is said in a dialogue, whoever answers: `Says` holds of a list of questions with their answers
that takes a dialogue to its end. For the acts of a transfer `Goes` says the same, and each way to make
an act is characterised by it once. -/
namespace Telecine
namespace Dialogue

abbrev Said (Question : Type) (Reply : Question → Type) : Type :=
  (question : Question) × Reply question

variable {Shown Question : Type} {Reply : Question → Type} {α β ω : Type}

def Exchange.said (e : Exchange Shown Question Reply) : Said Question Reply := ⟨e.question, e.reply⟩

inductive Says : Dialogue Shown Question Reply α → List (Said Question Reply) → α → Shown → Prop where
  | done (shown result) : Says (.done shown result) [] result shown
  | ask {shown question next said result last} (reply : Reply question)
      (rest : Says (next reply) said result last) :
      Says (.ask shown question next) (⟨question, reply⟩ :: said) result last

theorem traceSays (answer : (question : Question) → StateM ω (Reply question))
    (d : Dialogue Shown Question Reply α) (world : ω) :
    Says d ((d.trace answer world).map Exchange.said) (d.run answer world).1.1
      (d.run answer world).1.2 := by
  induction d generalizing world with
  | done shown result => exact .done shown result
  | ask shown question next ih =>
    exact .ask (answer question world).1 (ih (answer question world).1 (answer question world).2)

theorem traceAnswered {P : Said Question Reply → Prop}
    {answer : (question : Question) → StateM ω (Reply question)}
    (each : ∀ question world, P ⟨question, (answer question world).1⟩)
    (d : Dialogue Shown Question Reply α) (world : ω) :
    ∀ e ∈ (d.trace answer world).map Exchange.said, P e := by
  induction d generalizing world with
  | done => simp [trace]
  | ask shown question next ih =>
    exact List.forall_mem_cons.mpr
      ⟨each question world, ih (answer question world).1 (answer question world).2⟩

theorem saysAndThen {d : Dialogue Shown Question Reply α}
    {next : Shown → α → Dialogue Shown Question Reply β} {said : List (Said Question Reply)}
    {result : β} {last : Shown} :
    Says (d.andThen next) said result last ↔ ∃ first value middle rest, said = first ++ rest ∧
      Says d first value middle ∧ Says (next middle value) rest result last := by
  constructor
  · intro telling
    induction d generalizing said with
    | done shown value => exact ⟨[], value, shown, said, rfl, .done shown value, telling⟩
    | ask shown question more ih =>
      cases telling with
      | ask reply telling =>
        obtain ⟨first, value, middle, rest, rfl, before, later⟩ := ih reply telling
        exact ⟨_, value, middle, rest, rfl, .ask reply before, later⟩
  · intro h
    obtain ⟨first, value, middle, rest, rfl, before, later⟩ := h
    induction before with
    | done => exact later
    | ask reply before ih => exact .ask reply (ih later)

inductive Answered (answer : (question : Question) → StateM ω (Reply question)) :
    ω → List (Said Question Reply) → ω → Prop where
  | nil (world) : Answered answer world [] world
  | cons {world said last} (question)
      (rest : Answered answer (answer question world).2 said last) :
      Answered answer world (⟨question, (answer question world).1⟩ :: said) last

theorem answeredCons {answer : (question : Question) → StateM ω (Reply question)} {world next last : ω}
    {question : Question} {reply : Reply question} {said : List (Said Question Reply)}
    (same : answer question world = (reply, next)) (rest : Answered answer next said last) :
    Answered answer world (⟨question, reply⟩ :: said) last := by
  have step : Answered answer world (⟨question, (answer question world).1⟩ :: said) last :=
    .cons question (by rw [same]; exact rest)
  rwa [same] at step

theorem answeredAppend {answer : (question : Question) → StateM ω (Reply question)}
    {world middle last : ω} {first rest : List (Said Question Reply)}
    (before : Answered answer world first middle) (later : Answered answer middle rest last) :
    Answered answer world (first ++ rest) last := by
  induction before with
  | nil => exact later
  | cons question before ih => exact .cons question (ih later)

theorem answeredTrace (answer : (question : Question) → StateM ω (Reply question))
    (d : Dialogue Shown Question Reply α) (world : ω) :
    Answered answer world ((d.trace answer world).map Exchange.said) (d.run answer world).2 := by
  induction d generalizing world with
  | done => exact .nil world
  | ask shown question next ih =>
    exact .cons question (ih (answer question world).1 (answer question world).2)

/-- One who answers from a state of his own and a world, with both as one state. -/
def paired {σ : Type} (answer : (question : Question) → StateT σ (StateM ω) (Reply question))
    (question : Question) : StateM (σ × ω) (Reply question) := fun both =>
  let ((reply, own), world) := answer question both.1 both.2
  (reply, own, world)

theorem runPaired {σ : Type} (answer : (question : Question) → StateT σ (StateM ω) (Reply question))
    (d : Dialogue Shown Question Reply α) (own : σ) (world : ω) :
    d.run answer own world =
      (((d.run (paired answer) (own, world)).1, (d.run (paired answer) (own, world)).2.1),
        (d.run (paired answer) (own, world)).2.2) := by
  induction d generalizing own world with
  | done => rfl
  | ask shown question next ih => exact ih _ _ _

theorem saidRun {answer : (question : Question) → StateM ω (Reply question)}
    {d : Dialogue Shown Question Reply α} {said : List (Said Question Reply)} {result : α}
    {shown : Shown} {world last : ω} (telling : Says d said result shown)
    (answered : Answered answer world said last) :
    d.run answer world = ((result, shown), last) ∧
      (d.trace answer world).map Exchange.said = said := by
  induction telling generalizing world with
  | done => cases answered; exact ⟨rfl, rfl⟩
  | ask reply rest ih =>
    cases answered with
    | cons question later =>
      obtain ⟨run, trace⟩ := ih later
      exact ⟨run, congrArg (_ :: ·) trace⟩

end Dialogue

namespace Transfer
open Dialogue

abbrev Said : Type := Dialogue.Said Request Reply

def Goes {α : Type} (act : Act α) (before : Status) (said : List Said) (result : Except Halt α)
    (after : Status) : Prop := Says (act.run before) said result after

section Acts
variable {α β : Type} {before after : Status} {said : List Said} {result : Except Halt α}

theorem saysDone {shown : Status} {value result : α} :
    @Says Status Request Reply α (.done shown value) said result after ↔
      said = [] ∧ result = value ∧ after = shown := by
  constructor
  · intro h
    cases h
    exact ⟨rfl, rfl, rfl⟩
  · intro h
    obtain ⟨rfl, rfl, rfl⟩ := h
    exact .done _ _

@[simp] theorem goesPure {value : α} : Goes (pure value) before said result after ↔
    said = [] ∧ result = .ok value ∧ after = before := saysDone

@[simp] theorem goesThrow {halt : Halt} : Goes (throw halt : Act α) before said result after ↔
    said = [] ∧ result = .error halt ∧ after = before := saysDone

@[simp] theorem goesFail {failure : Failure} : Goes (fail failure : Act α) before said result after ↔
    said = [] ∧ result = .error (.failed failure) ∧ after = before := saysDone

@[simp] theorem goesKnown {value : Except Halt α} : Goes (known value) before said result after ↔
    said = [] ∧ result = value ∧ after = before := saysDone

@[simp] theorem goesChecked {value : Checked α} : Goes (checked value) before said result after ↔
    said = [] ∧ result = Halt.ofChecked value ∧ after = before := saysDone

@[simp] theorem goesChange {act : Status → Status} {result : Except Halt Unit} :
    Goes (change act) before said result after ↔
      said = [] ∧ result = .ok () ∧ after = act before := saysDone

@[simp] theorem goesLook {result : Except Halt Status} :
    Goes (ExceptT.lift Talk.look) before said result after ↔
      said = [] ∧ result = .ok before ∧ after = before := saysDone

theorem goesAsk (request : Request) {result : Except Halt (Reply request)} :
    Goes (ask request) before said result after ↔
      ∃ reply, said = [⟨request, reply⟩] ∧ result = .ok reply ∧ after = before := by
  constructor
  · intro h
    cases h
    rename_i reply rest
    cases rest
    exact ⟨reply, rfl, rfl, rfl⟩
  · intro h
    obtain ⟨reply, rfl, rfl, rfl⟩ := h
    exact .ask reply (.done _ _)

theorem goesBind {act : Act β} {next : β → Act α} :
    Goes (act >>= next) before said result after ↔
      (∃ halt, result = .error halt ∧ Goes act before said (.error halt) after) ∨
        ∃ first value middle rest, said = first ++ rest ∧ Goes act before first (.ok value) middle ∧
          Goes (next value) middle rest result after := by
  refine saysAndThen.trans ⟨?_, ?_⟩
  · intro h
    obtain ⟨first, value, middle, rest, rfl, head, tail⟩ := h
    cases value with
    | error halt =>
      obtain ⟨rfl, rfl, rfl⟩ := saysDone.mp tail
      exact .inl ⟨halt, rfl, (List.append_nil first).symm ▸ head⟩
    | ok value => exact .inr ⟨first, value, middle, rest, rfl, head, tail⟩
  · intro h
    rcases h with ⟨halt, rfl, head⟩ | ⟨first, value, middle, rest, rfl, head, tail⟩
    · exact ⟨said, .error halt, after, [], (List.append_nil said).symm, head, .done _ _⟩
    · exact ⟨first, .ok value, middle, rest, rfl, head, tail⟩

theorem goesOn {act : Act β} {next : β → Act α} {value : α} :
    Goes (act >>= next) before said (.ok value) after ↔
      ∃ first early middle rest, said = first ++ rest ∧ Goes act before first (.ok early) middle ∧
        Goes (next early) middle rest (.ok value) after := by
  simp [goesBind]

theorem goesAskOn (request : Request) {next : Reply request → Act α} :
    Goes (ask request >>= next) before said result after ↔
      ∃ reply rest, said = ⟨request, reply⟩ :: rest ∧ Goes (next reply) before rest result after := by
  rw [goesBind]
  constructor
  · intro h
    rcases h with ⟨halt, rfl, asked⟩ | ⟨first, value, middle, rest, rfl, asked, go⟩
    · obtain ⟨reply, _, failed, _⟩ := (goesAsk request).mp asked
      cases failed
    · obtain ⟨reply, rfl, same, rfl⟩ := (goesAsk request).mp asked
      cases same
      exact ⟨value, rest, rfl, go⟩
  · intro h
    obtain ⟨reply, rest, rfl, go⟩ := h
    exact .inr ⟨_, reply, before, rest, rfl, (goesAsk request).mpr ⟨reply, rfl, rfl, rfl⟩, go⟩

/-! Acts that ask nothing. -/

@[simp] theorem goesPureOn {early : β} {next : β → Act α} :
    Goes (pure early >>= next) before said result after ↔
      Goes (next early) before said result after := Iff.rfl

@[simp] theorem goesFailOn {failure : Failure} {next : β → Act α} :
    Goes (fail failure >>= next) before said result after ↔
      said = [] ∧ result = .error (.failed failure) ∧ after = before := saysDone

@[simp] theorem goesKnownOn {known' : Except Halt β} {next : β → Act α} {value : α} :
    Goes (known known' >>= next) before said (.ok value) after ↔
      ∃ early, known' = .ok early ∧ Goes (next early) before said (.ok value) after := by
  rw [goesOn]
  constructor
  · intro h
    obtain ⟨first, early, middle, rest, rfl, silent, go⟩ := h
    obtain ⟨rfl, same, rfl⟩ := goesKnown.mp silent
    exact ⟨early, same.symm, go⟩
  · intro h
    obtain ⟨early, rfl, go⟩ := h
    exact ⟨[], early, before, said, rfl, goesKnown.mpr ⟨rfl, rfl, rfl⟩, go⟩

@[simp] theorem goesCheckedOn {value' : Checked β} {next : β → Act α} {value : α} :
    Goes (checked value' >>= next) before said (.ok value) after ↔
      ∃ early, value' = .ok early ∧ Goes (next early) before said (.ok value) after := by
  cases value' <;> simp [checked]

@[simp] theorem goesChangeOn {act : Status → Status} {next : Unit → Act α} :
    Goes (change act >>= next) before said result after ↔
      Goes (next ()) (act before) said result after := Iff.rfl

@[simp] theorem goesLookOn {next : Status → Act α} :
    Goes (ExceptT.lift Talk.look >>= next) before said result after ↔
      Goes (next before) before said result after := Iff.rfl

end Acts
end Transfer
end Telecine
