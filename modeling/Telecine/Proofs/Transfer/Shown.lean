import Telecine.Proofs.Transfer.Parts

/-! What a run shows while it goes on. `Tells` is what is said together with what is shown at each
question, and `Keeps` says of an act that it shows nothing else than it is asked to. -/
namespace Telecine
namespace Dialogue

variable {Shown Question : Type} {Reply : Question → Type} {α β ω : Type}

inductive Tells : Dialogue Shown Question Reply α → List (Exchange Shown Question Reply) → α → Shown →
    Prop where
  | done (shown result) : Tells (.done shown result) [] result shown
  | ask {shown question next told result last} (reply : Reply question)
      (rest : Tells (next reply) told result last) :
      Tells (.ask shown question next) (⟨shown, question, reply⟩ :: told) result last

theorem traceTells (answer : (question : Question) → StateM ω (Reply question))
    (d : Dialogue Shown Question Reply α) (world : ω) :
    Tells d (d.trace answer world) (d.run answer world).1.1 (d.run answer world).1.2 := by
  induction d generalizing world with
  | done shown result => exact .done shown result
  | ask shown question next ih =>
    exact .ask (answer question world).1 (ih (answer question world).1 (answer question world).2)

section
variable {d : Dialogue Shown Question Reply α} {told : List (Exchange Shown Question Reply)}
  {result : α} {last : Shown}

theorem tellsSays (telling : Tells d told result last) :
    Says d (told.map Exchange.said) result last := by
  induction telling with
  | done shown result => exact .done shown result
  | ask reply rest ih => exact .ask reply ih

theorem tellsDone {shown : Shown} {value : α} (telling : Tells (.done shown value) told result last) :
    told = [] ∧ result = value ∧ last = shown := by
  cases telling
  exact ⟨rfl, rfl, rfl⟩

theorem tellsAndThen {next : Shown → α → Dialogue Shown Question Reply β} {result : β}
    (telling : Tells (d.andThen next) told result last) : ∃ first value middle rest,
      told = first ++ rest ∧ Tells d first value middle ∧ Tells (next middle value) rest result last := by
  induction d generalizing told with
  | done shown value => exact ⟨[], value, shown, told, rfl, .done shown value, telling⟩
  | ask shown question more ih =>
    cases telling with
    | ask reply telling =>
      obtain ⟨first, value, middle, rest, rfl, before, later⟩ := ih reply telling
      exact ⟨_, value, middle, rest, rfl, .ask reply before, later⟩

def Holds (P : Shown → Question → Prop) (Q : Shown → Prop) : Dialogue Shown Question Reply α → Prop
  | .done shown _ => Q shown
  | .ask shown question next => P shown question ∧ ∀ reply, Holds P Q (next reply)

variable {P : Shown → Question → Prop} {Q R : Shown → Prop}

theorem holdsAndThen {next : Shown → α → Dialogue Shown Question Reply β} (first : Holds P R d)
    (later : ∀ shown value, R shown → Holds P Q (next shown value)) : Holds P Q (d.andThen next) := by
  induction d with
  | done shown value => exact later shown value first
  | ask shown question more ih => exact ⟨first.1, fun reply => ih reply (first.2 reply)⟩

theorem tellsHolds (holds : Holds P Q d) (telling : Tells d told result last) :
    (∀ e ∈ told, P e.shown e.question) ∧ Q last := by
  induction telling with
  | done => exact ⟨by simp, holds⟩
  | ask reply rest ih =>
    obtain ⟨others, ended⟩ := ih (holds.2 reply)
    exact ⟨List.forall_mem_cons.mpr ⟨holds.1, others⟩, ended⟩

end
end Dialogue

namespace Transfer
open Dialogue

abbrev Told : Type := Exchange Status Request Reply

def Keeps {α : Type} (P : Status → Request → Prop) (Q : Status → Prop) (act : Act α) : Prop :=
  ∀ before, Q before → Holds P Q (act.run before)

structure Steady (P : Status → Request → Prop) (Q : Status → Prop) : Prop where
  asks : ∀ s request, Q s → request ≠ .interrupted → P s request
  counts : ∀ s dropped damaged underruns, Q s → Q { s with dropped, damaged, underruns }
  moves : ∀ s time, Q s → Q { s with time }

section Acts
variable {α β : Type} {P : Status → Request → Prop} {Q : Status → Prop}

theorem tellsBind {act : Act β} {next : β → Act α} {before after : Status} {told : List Told}
    {result : Except Halt α} (telling : Tells ((act >>= next).run before) told result after) :
    (∃ halt, result = .error halt ∧ Tells (act.run before) told (.error halt) after) ∨
      ∃ first value middle rest, told = first ++ rest ∧ Tells (act.run before) first (.ok value) middle ∧
        Tells ((next value).run middle) rest result after := by
  obtain ⟨first, value, middle, rest, rfl, head, tail⟩ := tellsAndThen telling
  cases value with
  | error halt =>
    obtain ⟨rfl, rfl, rfl⟩ := tellsDone tail
    exact .inl ⟨halt, rfl, (List.append_nil first).symm ▸ head⟩
  | ok value => exact .inr ⟨first, value, middle, rest, rfl, head, tail⟩

theorem tellsAskOn (request : Request) {next : Reply request → Act α} {before after : Status}
    {told : List Told} {result : Except Halt α}
    (telling : Tells ((ask request >>= next).run before) told result after) :
    ∃ reply rest, told = ⟨before, request, reply⟩ :: rest ∧
      Tells ((next reply).run before) rest result after := by
  cases telling with
  | ask reply rest => exact ⟨reply, _, rfl, rest⟩

theorem keepsBind {act : Act β} {next : β → Act α} (first : Keeps P Q act)
    (later : ∀ value, Keeps P Q (next value)) : Keeps P Q (act >>= next) := by
  intro before shown
  refine holdsAndThen (first before shown) fun middle value kept => ?_
  cases value with
  | error halt => exact kept
  | ok value => exact later value middle kept

theorem keepsKnown (value : Except Halt α) : Keeps P Q (known value) := fun _ shown => shown

theorem keepsAsk {request : Request} (asks : ∀ s, Q s → P s request) : Keeps P Q (ask request) :=
  fun before shown => ⟨asks before shown, fun _ => shown⟩

theorem keepsChange {act : Status → Status} (changes : ∀ s, Q s → Q (act s)) :
    Keeps P Q (change act) := changes

theorem keepsSendAll (steady : Steady P Q) (sends : List (Outlet × Delivery)) :
    Keeps P Q (sendAll sends) := by
  induction sends with
  | nil => exact keepsKnown (.ok ())
  | cons send rest ih =>
    rw [sendAllCons]
    exact keepsBind (keepsAsk fun s kept => steady.asks s _ kept nofun) fun answer =>
      keepsBind (keepsKnown answer) fun _ => ih

theorem keepsDispatch (set : FileSet) (delivery : Delivery) : Keeps P Q (dispatch set delivery) := by
  unfold dispatch
  split <;> exact fun _ shown => shown

theorem keepsNoPicture (steady : Steady P Q) (outage : Outage) :
    Keeps P Q (noPicture outage : Act α) := by
  unfold noPicture
  split
  · exact keepsBind (keepsAsk fun s kept => steady.asks s _ kept nofun) fun _ => keepsKnown (.error _)
  · exact keepsBind (keepsKnown (.ok none)) fun _ => keepsKnown (.error _)

theorem keepsPictures (steady : Steady P Q) (set : FileSet) (count : Nat) :
    Keeps P Q (passPictures set count) := by
  induction count with
  | zero => exact keepsKnown (.ok ())
  | succ count ih =>
    refine keepsBind ?_ fun _ => ih
    refine keepsBind (keepsAsk fun s kept => steady.asks s _ kept nofun) fun answer => ?_
    cases answer with
    | error outage => exact keepsNoPicture steady outage
    | ok picture =>
      refine keepsBind (keepsChange fun s kept => ?_) fun _ =>
        keepsBind (keepsDispatch set _) fun sends => ?_
      · split
        · exact steady.counts s _ _ _ kept
        · exact kept
      · split
        · exact keepsChange fun s kept => steady.counts s _ _ _ kept
        · exact keepsSendAll steady sends

theorem keepsSound (steady : Steady P Q) (plan : Plan) (frames : Nat) (set : FileSet) :
    Keeps P Q (passSound plan frames set) := by
  refine keepsBind (keepsAsk fun s kept => steady.asks s _ kept nofun) fun answer =>
    keepsBind (keepsKnown _) fun (_, short) => keepsBind (keepsChange fun s kept => ?_) fun _ =>
      keepsBind (keepsKnown _) fun _ => keepsBind (keepsDispatch set _) fun sends =>
        keepsSendAll steady sends
  split
  · exact steady.counts s _ _ _ kept
  · exact kept

theorem keepsFinish (steady : Steady P Q) (sets : List FileSet) : Keeps P Q (finishAll sets) := by
  induction sets with
  | nil => exact keepsKnown (.ok ())
  | cons set rest ih =>
    exact keepsBind (keepsDispatch set _) fun sends =>
      keepsBind (keepsSendAll steady sends) fun _ => ih

theorem keepsPass (steady : Steady P Q) (t : Transfer) (duration : Time) (frames reel : Nat)
    (time : Time) : Keeps P Q (t.pass duration frames reel time) :=
  keepsBind (keepsKnown _) fun _ => keepsBind (keepsKnown _) fun set =>
    keepsBind (keepsPictures steady set _) fun _ => keepsBind (keepsKnown _) fun _ =>
      keepsBind (keepsChange fun s kept => steady.moves s _ kept) fun _ =>
        keepsBind (fun _ shown => shown) fun _ =>
          keepsBind (keepsAsk fun s kept => steady.asks s _ kept nofun) fun _ =>
            keepsBind (keepsAsk fun s kept => steady.asks s _ kept nofun) fun _ =>
              keepsBind (keepsSound steady t.plan frames set) fun _ => keepsKnown (.ok _)

theorem tellsConclude {t : Transfer} {count : Nat} {before after : Status} {told : List Told}
    {result : Except Halt Summary}
    (telling : Tells ((t.conclude count).run before) told result after) :
    ∃ putOff : Option Failure, told = [⟨{ before with finished := true }, .trouble, putOff⟩] ∧
      after = { before with finished := true } ∧
      ((putOff = none ∧ ∃ summary, result = .ok summary) ∨
        ∃ failure, putOff = some failure ∧ result = .error (.failed failure)) := by
  obtain ⟨putOff, rest, rfl, onward⟩ := tellsAskOn .trouble telling
  cases putOff with
  | none =>
    obtain ⟨rfl, rfl, rfl⟩ := tellsDone onward
    exact ⟨none, rfl, rfl, .inl ⟨rfl, _, rfl⟩⟩
  | some failure =>
    obtain ⟨rfl, rfl, rfl⟩ := tellsDone onward
    exact ⟨some failure, rfl, rfl, .inr ⟨failure, rfl, rfl⟩⟩

end Acts
end Transfer
end Telecine
