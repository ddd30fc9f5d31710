import Telecine.Proofs.Transfer.Shown

/-! Acts judged by all that was said before. `Follows` carries the past of a dialogue along, so that a
question and the end may be held against it. For the acts of a transfer, `Obeys` leads from what holds
before an act to what holds after it, on terms that every question and every halt has to meet. -/
namespace Telecine
namespace Dialogue

variable {Shown Question : Type} {Reply : Question → Type} {α β : Type}

def Follows (P : List (Said Question Reply) → Shown → Question → Prop)
    (Q : List (Said Question Reply) → Shown → α → Prop) :
    List (Said Question Reply) → Dialogue Shown Question Reply α → Prop
  | past, .done shown result => Q past shown result
  | past, .ask shown question next =>
    P past shown question ∧ ∀ reply, Follows P Q (past ++ [⟨question, reply⟩]) (next reply)

section
variable {P : List (Said Question Reply) → Shown → Question → Prop}
  {past : List (Said Question Reply)} {d : Dialogue Shown Question Reply α}

theorem followsAndThen {R : List (Said Question Reply) → Shown → α → Prop}
    {Q : List (Said Question Reply) → Shown → β → Prop}
    {next : Shown → α → Dialogue Shown Question Reply β} (first : Follows P R past d)
    (later : ∀ past shown value, R past shown value → Follows P Q past (next shown value)) :
    Follows P Q past (d.andThen next) := by
  induction d generalizing past with
  | done shown value => exact later past shown value first
  | ask shown question more ih => exact ⟨first.1, fun reply => ih reply (first.2 reply)⟩

theorem followsWeaken {Q R : List (Said Question Reply) → Shown → α → Prop} (first : Follows P Q past d)
    (weaker : ∀ past shown value, Q past shown value → R past shown value) : Follows P R past d := by
  induction d generalizing past with
  | done shown value => exact weaker past shown value first
  | ask shown question more ih => exact ⟨first.1, fun reply => ih reply (first.2 reply)⟩

theorem tellsFollows {Q : List (Said Question Reply) → Shown → α → Prop}
    {told : List (Exchange Shown Question Reply)} {result : α} {last : Shown}
    (follows : Follows P Q past d) (telling : Tells d told result last) :
    (∀ first e rest, told = first ++ e :: rest →
      P (past ++ first.map Exchange.said) e.shown e.question) ∧
      Q (past ++ told.map Exchange.said) last result := by
  induction telling generalizing past with
  | done shown result => exact ⟨by simp, (List.append_nil past).symm ▸ follows⟩
  | @ask shown question next told result last reply rest ih =>
    have onward (more : List (Exchange Shown Question Reply)) :
        past ++ [⟨question, reply⟩] ++ more.map Exchange.said =
          past ++ ((⟨shown, question, reply⟩ : Exchange Shown Question Reply) :: more).map
            Exchange.said := List.append_assoc ..
    obtain ⟨others, ended⟩ := ih (follows.2 reply)
    refine ⟨fun first e rest split => ?_, onward told ▸ ended⟩
    cases first with
    | nil =>
      obtain ⟨rfl, _⟩ := List.cons.inj split
      exact (List.append_nil past).symm ▸ follows.1
    | cons e' first =>
      obtain ⟨rfl, same⟩ := List.cons.inj split
      exact onward first ▸ others first e rest same

end
end Dialogue

namespace Transfer
open Dialogue

structure Terms where
  asks : List Said → Status → Request → Prop
  halts : List Said → Status → Halt → Prop

def Terms.ends {α : Type} (terms : Terms) (post : α → List Said → Status → Prop) (past : List Said)
    (after : Status) : Except Halt α → Prop
  | .ok value => post value past after
  | .error halt => terms.halts past after halt

def Obeys {α : Type} (terms : Terms) (pre : List Said → Status → Prop) (act : Act α)
    (post : α → List Said → Status → Prop) : Prop :=
  ∀ past before, pre past before → Follows terms.asks (terms.ends post) past (act.run before)

section Rules
variable {α β : Type} {terms : Terms} {pre : List Said → Status → Prop}
  {post : α → List Said → Status → Prop}

theorem obeysBind {act : Act β} {next : β → Act α} {middle : β → List Said → Status → Prop}
    (first : Obeys terms pre act middle) (later : ∀ value, Obeys terms (middle value) (next value) post) :
    Obeys terms pre (act >>= next) post := by
  intro past before holds
  refine followsAndThen (first past before holds) fun past after value reached => ?_
  cases value with
  | error halt => exact reached
  | ok value => exact later value past after reached

theorem obeysWeaken {act : Act α} {pre' : List Said → Status → Prop}
    {post' : α → List Said → Status → Prop} (obeys : Obeys terms pre act post)
    (before : ∀ past s, pre' past s → pre past s)
    (after : ∀ value past s, post value past s → post' value past s) : Obeys terms pre' act post' := by
  intro past s holds
  refine followsWeaken (obeys past s (before past s holds)) fun past s value reached => ?_
  cases value with
  | error halt => exact reached
  | ok value => exact after value past s reached

theorem obeysGiven {act : Act α} {P : Prop} (obeys : P → Obeys terms pre act post) :
    Obeys terms (fun past s => P ∧ pre past s) act post :=
  fun past s ⟨given, holds⟩ => obeys given past s holds

theorem obeysPureOn {early : β} {next : β → Act α} (onward : Obeys terms pre (next early) post) :
    Obeys terms pre (pure early >>= next) post := onward

theorem obeysKnown {value : Except Halt α} (known' : ∀ past s, pre past s → terms.ends post past s value) :
    Obeys terms pre (known value) post := known'

theorem obeysAsk {request : Request} {post : Reply request → List Said → Status → Prop}
    (asks : ∀ past s, pre past s → terms.asks past s request)
    (replies : ∀ past s reply, pre past s → post reply (past ++ [⟨request, reply⟩]) s) :
    Obeys terms pre (ask request) post :=
  fun past before holds => ⟨asks past before holds, fun reply => replies past before reply holds⟩

theorem obeysChange {act : Status → Status} {post : Unit → List Said → Status → Prop}
    (changes : ∀ past s, pre past s → post () past (act s)) : Obeys terms pre (change act) post :=
  changes

theorem obeysLook {post : Status → List Said → Status → Prop}
    (looks : ∀ past s, pre past s → post s past s) : Obeys terms pre (ExceptT.lift Talk.look) post :=
  looks

end Rules
end Transfer
end Telecine
