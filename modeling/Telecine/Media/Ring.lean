/-! Samples in the order they came, kept in the blocks they came in, so that neither a new block nor
a read has to pass over all of them. A read takes whole blocks and the first part of the next. -/
namespace Telecine

structure Ring where
  blocks : List (List Float32)

namespace Ring

def empty : Ring := ⟨[]⟩

def toList (r : Ring) : List Float32 := r.blocks.flatten

def push (r : Ring) (block : List Float32) : Ring := ⟨r.blocks ++ [block]⟩

def takeFrom : (n : Nat) → List (List Float32) → List Float32 × List (List Float32)
  | 0, blocks => ([], blocks)
  | _ + 1, [] => ([], [])
  | n + 1, block :: rest =>
    if n + 1 < block.length then (block.take (n + 1), block.drop (n + 1) :: rest)
    else
      let (more, left) := takeFrom (n + 1 - block.length) rest
      (block ++ more, left)

def take (r : Ring) (n : Nat) : List Float32 × Ring :=
  ((takeFrom n r.blocks).1, ⟨(takeFrom n r.blocks).2⟩)

@[simp] theorem toList_empty : empty.toList = [] := rfl

@[simp] theorem toList_push (r : Ring) (block : List Float32) :
    (r.push block).toList = r.toList ++ block := by
  simp [toList, push]

theorem takeFrom_eq (n : Nat) (blocks : List (List Float32)) :
    (takeFrom n blocks).1 = blocks.flatten.take n ∧
      (takeFrom n blocks).2.flatten = blocks.flatten.drop n := by
  fun_induction takeFrom n blocks with
  | case1 => simp
  | case2 => simp
  | case3 n block rest short =>
    simp [List.take_append_of_le_length (Nat.le_of_lt short),
      List.drop_append_of_le_length (Nat.le_of_lt short)]
  | case4 n block rest long more left eq ih =>
    rw [eq] at ih
    have fits : block.length ≤ n + 1 := by omega
    simp [List.take_append, List.drop_append, List.take_of_length_le fits,
      List.drop_of_length_le fits, ← ih.1, ← ih.2]

@[simp] theorem take_fst (r : Ring) (n : Nat) : (r.take n).1 = r.toList.take n :=
  (takeFrom_eq n r.blocks).1

@[simp] theorem toList_take_snd (r : Ring) (n : Nat) : (r.take n).2.toList = r.toList.drop n :=
  (takeFrom_eq n r.blocks).2

end Ring
end Telecine
