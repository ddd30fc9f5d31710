/-! A program that talks to its surroundings: it asks one question after another and ends with a
result, and at every point it shows a value that others may look at. A dialogue is finite whatever is
answered. `trace` is all that was asked, with what was shown and what was answered. -/
namespace Telecine

inductive Dialogue (Shown Question : Type) (Reply : Question → Type) (α : Type) : Type
  | done (shown : Shown) (result : α)
  | ask (shown : Shown) (question : Question)
      (next : Reply question → Dialogue Shown Question Reply α)

namespace Dialogue

variable {Shown Question : Type} {Reply : Question → Type} {α β : Type}

def andThen (d : Dialogue Shown Question Reply α)
    (next : Shown → α → Dialogue Shown Question Reply β) : Dialogue Shown Question Reply β :=
  match d with
  | .done shown result => next shown result
  | .ask shown question rest => .ask shown question fun reply => (rest reply).andThen next

def run {m : Type → Type} [Monad m] (answer : (question : Question) → m (Reply question)) :
    Dialogue Shown Question Reply α → m (α × Shown)
  | .done shown result => return (result, shown)
  | .ask _ question next => do run answer (next (← answer question))

structure Exchange (Shown Question : Type) (Reply : Question → Type) where
  shown : Shown
  question : Question
  reply : Reply question

def trace {ω : Type} (answer : (question : Question) → ω → Reply question × ω) :
    Dialogue Shown Question Reply α → ω → List (Exchange Shown Question Reply)
  | .done _ _, _ => []
  | .ask shown question next, world =>
    let answered := answer question world
    ⟨shown, question, answered.1⟩ :: trace answer (next answered.1) answered.2

theorem run_andThen {ω : Type} (answer : (question : Question) → StateM ω (Reply question))
    (d : Dialogue Shown Question Reply α) (next : Shown → α → Dialogue Shown Question Reply β)
    (world : ω) :
    (d.andThen next).run answer world =
      (next (d.run answer world).1.2 (d.run answer world).1.1).run answer
        (d.run answer world).2 := by
  induction d generalizing world with
  | done => rfl
  | ask shown question rest ih =>
    exact ih (answer question world).1 (answer question world).2

theorem trace_andThen {ω : Type} (answer : (question : Question) → StateM ω (Reply question))
    (d : Dialogue Shown Question Reply α) (next : Shown → α → Dialogue Shown Question Reply β)
    (world : ω) :
    (d.andThen next).trace answer world =
      d.trace answer world ++
        (next (d.run answer world).1.2 (d.run answer world).1.1).trace answer
          (d.run answer world).2 := by
  induction d generalizing world with
  | done => rfl
  | ask shown question rest ih =>
    simp only [andThen, trace, List.cons_append]
    exact congrArg _ (ih (answer question world).1 (answer question world).2)

end Dialogue

/-- A part of a dialogue, which starts from what is shown. -/
def Talk (Shown Question : Type) (Reply : Question → Type) (α : Type) : Type :=
  Shown → Dialogue Shown Question Reply α

namespace Talk

variable {Shown Question : Type} {Reply : Question → Type}

instance : Monad (Talk Shown Question Reply) where
  pure result := fun shown => .done shown result
  bind talk next := fun shown => (talk shown).andThen fun shown result => next result shown

def ask (question : Question) : Talk Shown Question Reply (Reply question) :=
  fun shown => .ask shown question fun reply => .done shown reply

def change (act : Shown → Shown) : Talk Shown Question Reply Unit :=
  fun shown => .done (act shown) ()

def look : Talk Shown Question Reply Shown := fun shown => .done shown shown

end Talk
end Telecine
