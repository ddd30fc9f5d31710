import Telecine.Proofs.Text.Siblings

/-! The components of a path. A plain name joined to a folder adds itself to the folder's components and
nothing else; and a path that names a file has the components of its folder, and then the name. Two paths
to one file may be spelled differently, so all of this is about components and not about texts. -/
namespace Telecine.Path

def opening (lead : List Char) : List Component :=
  if lead = ['/'] then [.root] else if lead = ['.'] then [.current] else []

def shown (parts : List (List Char)) : List Component :=
  (parts.filter (!isBlankPiece ·)).map Component.ofPiece

section Shown
variable {p : Path} {lead body chars part : List Char} {parts : List (List Char)}

theorem componentsOpened (cut : split p.text.toList = (lead, body)) :
    p.components = opening lead ++ shown (pieces body) := by
  rw [components, cut]
  rfl

theorem shownAppend (before after : List (List Char)) :
    shown (before ++ after) = shown before ++ shown after := by
  simp [shown]

theorem shownPlain {name : String} (plain : Plain name) : shown [name.toList] = [.normal name] := by
  simp [shown, plain.shown, Component.ofPiece, plain.own]

theorem shownDropped (parts : List (List Char)) : shown (dropBlankEnd parts) = shown parts := by
  induction parts using List.reverseRecOn with
  | nil => rfl
  | append_singleton before part ih =>
    cases blank : isBlankPiece part with
    | false => rw [dropShown blank]
    | true =>
      have dropped : dropBlankEnd (before ++ [part]) = dropBlankEnd before :=
        List.rdropWhile_concat_pos isBlankPiece before part blank
      have hidden : shown [part] = [] := by simp [shown, blank]
      rw [dropped, ih, shownAppend, hidden, List.append_nil]

theorem piecesAppend (front rest : List Char) :
    pieces (front ++ '/' :: rest) = pieces front ++ pieces rest := by
  simp only [piecesSplit, List.splitOn_append_cons_self]

theorem piecesAlone (single : '/' ∉ part) : pieces part = [part] := by
  have only : glue [part] = part := by simp [glue]
  rw [← only, piecesGlue (by simp) (by simpa using single), only]

theorem splitOnward (some : chars ≠ []) (rest : List Char) :
    split (chars ++ '/' :: rest) = ((split chars).1, (split chars).2 ++ '/' :: rest) := by
  fun_cases split chars with
  | case1 more => rfl
  | case2 => rfl
  | case3 more => rfl
  | case4 _ root here slashed =>
    obtain ⟨c, more, rfl⟩ := List.exists_cons_of_ne_nil some
    generalize same : c :: more ++ '/' :: rest = text
    fun_cases split text with
    | case1 => simp_all
    | case2 => simp_all
    | case3 later => cases more <;> simp_all
    | case4 => rfl

theorem folderComponents (begins : Begins lead parts) (single : ∀ part ∈ parts, '/' ∉ part) :
    (folderOf lead parts).components = opening lead ++ shown parts := by
  by_cases kept : dropBlankEnd parts = []
  · have none : shown parts = [] := by rw [← shownDropped, kept]; rfl
    have text : folderOf lead parts = ⟨String.ofList lead⟩ := by simp [folderOf, kept, glue]
    rw [none, text]
    cases begins <;> rfl
  · have single' : ∀ part ∈ dropBlankEnd parts, '/' ∉ part := fun part member =>
      single part ((dropPrefix parts).subset member)
    have cut : split (folderOf lead parts).text.toList = (lead, glue (dropBlankEnd parts)) := by
      rw [folderOf, String.toList_ofList]
      exact splitBegan (begunKept begins kept) kept single'
    rw [componentsOpened cut, piecesGlue kept single', shownDropped]

end Shown

section Files
variable {p folder : Path} {name : String}

theorem parentComponents (named : p.fileName? = some name) (within : p.parent? = some folder) :
    p.components = folder.components ++ [.normal name] := by
  obtain ⟨lead, body, before, blanks, cut, all, ends, plain⟩ := nameOpened named
  obtain rfl := Option.some.inj (within.symm.trans (parentOpened cut ends))
  have single : ∀ part ∈ before, '/' ∉ part := fun part member =>
    piecesSingle body part (all ▸ List.mem_append_left _ member)
  rw [folderComponents (splitBegins cut all plain.shown) single, componentsOpened cut, ← shownDropped,
    ends, shownAppend, shownPlain plain, List.append_assoc]

theorem joinSlashed (relative : name.toList.head? ≠ some '/') (some : folder.text.toList ≠ []) :
    ∃ front, (folder.join name).text.toList = front ++ '/' :: name.toList ∧
      (folder.text.toList = front ∨ folder.text.toList = front ++ ['/']) := by
  by_cases slashed : folder.text.toList.getLast? = Option.some '/'
  · obtain ⟨front, ends⟩ := List.getLast?_eq_some_iff.mp slashed
    exact ⟨front, by simp [join, relative, ends], .inr ends⟩
  · exact ⟨_, by simp [join, relative, slashed, some], .inl rfl⟩

theorem slashHidden {front : List Char} (some : front ≠ []) (ends : folder.text.toList = front ++ ['/']) :
    folder.components = components ⟨String.ofList front⟩ := by
  have cut : split folder.text.toList = ((split front).1, (split front).2 ++ ['/']) :=
    ends ▸ splitOnward some []
  have short : split (⟨String.ofList front⟩ : Path).text.toList = ((split front).1, (split front).2) := by
    rw [String.toList_ofList]
  have blank : shown (pieces []) = [] := rfl
  rw [componentsOpened cut, componentsOpened short, piecesAppend, shownAppend, blank, List.append_nil]

theorem joinPieces (folder : Path) (plain : Plain name) : ∃ lead body before,
    split (folder.join name).text.toList = (lead, body) ∧ pieces body = before ++ [name.toList] ∧
      folder.components = opening lead ++ shown before := by
  have relative : name.toList.head? ≠ some '/' := fun root =>
    plain.single (List.mem_of_mem_head? root)
  have alone := piecesAlone plain.single
  by_cases empty : folder.text.toList = []
  · have bare : folder = ⟨""⟩ := congrArg Path.mk (String.toList_eq_nil_iff.mp empty)
    have text : (folder.join name).text.toList = name.toList ++ [] := by simp [join, relative, bare]
    refine ⟨[], name.toList, [], ?_, alone, bare ▸ rfl⟩
    rw [text, splitShown plain.single plain.shown, List.append_nil]
  · obtain ⟨front, text, own⟩ := joinSlashed relative empty
    by_cases root : front = []
    · subst root
      have slash : folder.text.toList = ['/'] := own.resolve_left empty
      refine ⟨['/'], name.toList, [], text ▸ rfl, alone, ?_⟩
      exact componentsOpened (by rw [slash])
    · have same : folder.components = components ⟨String.ofList front⟩ := by
        rcases own with whole | slashed
        · rw [← whole, String.ofList_toList]
        · exact slashHidden root slashed
      refine ⟨_, _, _, text ▸ splitOnward root name.toList, by rw [piecesAppend, alone], ?_⟩
      exact same.trans (componentsOpened (by rw [String.toList_ofList]))

theorem childFile (folder : Path) (plain : Plain name) :
    (folder.join name).fileName? = some name ∧
      (folder.join name).components = folder.components ++ [.normal name] := by
  obtain ⟨lead, body, before, cut, all, same⟩ := joinPieces folder plain
  constructor
  · simp [fileName?, cut, all, dropShown plain.shown, plain.own]
  · rw [componentsOpened cut, all, shownAppend, shownPlain plain, same, List.append_assoc]

end Files
end Telecine.Path
