import Telecine.Proofs.Json.Scanning

/-! Reading what is written. The tokens of a value are put together to that value, so the text of a sound
value is read as it. -/
namespace Telecine.Json

section Assembling
variable {stack : List Frame} {rest : List Token} {wanted : Wanted}

def Open (wanted : Wanted) : Prop := wanted = .value ∨ wanted = .valueOrEnd

theorem assembleMore (now : Assembly) (token : Token) :
    assemble now (token :: rest) = (assembleStep now token).bind (assemble · rest) := by
  rw [assemble]
  rfl

theorem assembleValue (opened : Open wanted) {token : Token} (apart : token ≠ .mark ']') :
    assemble ⟨stack, wanted⟩ (token :: rest) = (takeValue stack token).bind (assemble · rest) := by
  rw [assembleMore]
  rcases opened with rfl | rfl
  · rfl
  · have next : assembleStep ⟨stack, .valueOrEnd⟩ token = takeValue stack token := by
      unfold assembleStep
      split <;> simp_all
    rw [next]

def Completes (value : Json) : Prop :=
  ∀ (stack : List Frame) (wanted : Wanted) (rest : List Token), Open wanted →
    assemble ⟨stack, wanted⟩ (tokens value ++ rest) = (complete value stack).bind (assemble · rest)

theorem assembleItems {items : List Json} (each : ∀ item ∈ items, Completes item) (taken : List Json) :
    assemble ⟨.list taken :: stack, .separator⟩ (itemTokens items ++ .mark ']' :: rest) =
      (complete (.list (taken.reverse ++ items)) stack).bind (assemble · rest) := by
  induction items generalizing taken with
  | nil => simp [itemTokens, assembleMore, assembleStep, close]
  | cons item items ih =>
    obtain ⟨first, others⟩ := List.forall_mem_cons.mp each
    have next := first (.list taken :: stack) .value (itemTokens items ++ .mark ']' :: rest) (.inl rfl)
    have comma : assemble ⟨.list taken :: stack, .separator⟩
        (.mark ',' :: (tokens item ++ (itemTokens items ++ .mark ']' :: rest))) = _ := next
    rw [itemTokens, List.cons_append, List.append_assoc, comma, complete, Option.bind_some,
      ih others]
    simp

theorem assembleMembers {members : List (Option String × Json)} (each : ∀ m ∈ members, Completes m.2)
    (taken : List (Option String × Json)) :
    assemble ⟨.record taken :: stack, .separator⟩ (memberTokens members ++ .mark '}' :: rest) =
      (complete (.record (taken.reverse ++ members)) stack).bind (assemble · rest) := by
  induction members generalizing taken with
  | nil => simp [memberTokens, assembleMore, assembleStep, close]
  | cons m members ih =>
    obtain ⟨first, others⟩ := List.forall_mem_cons.mp each
    obtain ⟨key, value⟩ := m
    have next := first (.member taken key :: stack) .value (memberTokens members ++ .mark '}' :: rest)
      (.inl rfl)
    have named : assemble ⟨.record taken :: stack, .separator⟩ (.mark ',' :: .text key :: .mark ':' ::
        (tokens value ++ (memberTokens members ++ .mark '}' :: rest))) = _ := next
    rw [memberTokens, List.cons_append, List.cons_append, List.cons_append, List.append_assoc, named,
      complete, Option.bind_some, ih others]
    simp

theorem soundCompletes {value : Json} (sound : Sound value) : Completes value := by
  induction sound with
  | null =>
    intro stack wanted rest opened
    exact assembleValue opened nofun
  | bool value =>
    intro stack wanted rest opened
    cases value <;> exact assembleValue opened nofun
  | number _ =>
    intro stack wanted rest opened
    exact assembleValue opened nofun
  | text _ =>
    intro stack wanted rest opened
    exact assembleValue opened nofun
  | @list items _ ih =>
    intro stack wanted rest opened
    cases items with
    | nil =>
      rw [tokens, List.cons_append, assembleValue opened (by simp)]
      rfl
    | cons item items =>
      obtain ⟨first, others⟩ := List.forall_mem_cons.mp ih
      rw [tokens, List.cons_append, List.append_assoc, List.append_assoc, assembleValue opened (by simp),
        takeValue, Option.bind_some, first _ _ _ (.inr rfl), complete, Option.bind_some]
      exact assembleItems others [item]
  | @record members _ _ ih =>
    intro stack wanted rest opened
    cases members with
    | nil =>
      rw [tokens, List.cons_append, assembleValue opened (by simp)]
      rfl
    | cons m members =>
      obtain ⟨first, others⟩ := List.forall_mem_cons.mp ih
      obtain ⟨key, value⟩ := m
      have next := first (.member [] key :: stack) .value (memberTokens members ++ ([.mark '}'] ++ rest))
        (.inl rfl)
      have named : assemble ⟨.record [] :: stack, .keyOrEnd⟩ (.text key :: .mark ':' ::
          (tokens value ++ (memberTokens members ++ ([.mark '}'] ++ rest)))) = _ := next
      rw [tokens, List.cons_append, List.cons_append, List.cons_append, List.append_assoc,
        List.append_assoc, assembleValue opened (by simp), takeValue, Option.bind_some, named, complete,
        Option.bind_some]
      exact assembleMembers others [(key, value)]

end Assembling

theorem readWrite {value : Json} (sound : Sound value) : read (write value) = some value := by
  have scanned := soundScans sound 0 [] [] nofun
  have whole := soundCompletes sound [] .value [] (.inl rfl)
  rw [List.append_nil] at scanned whole
  rw [read, write, String.toList_ofList, scanned, scan, List.append_nil]
  simp only [bind, Option.bind_some, List.reverse_reverse, whole, complete]
  rfl

end Telecine.Json
