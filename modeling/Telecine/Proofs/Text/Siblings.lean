import Mathlib.Data.List.DropRight
import Mathlib.Data.List.Nodup
import Telecine.Text.Path

/-! Files beside one another. What `parent?` gives of a path that names a file is a folder: any plain
name joined to it names a file of that folder again, whatever stood in the text the folder was taken
from. -/
namespace Telecine.Path

structure Plain (name : String) : Prop where
  single : '/' ∉ name.toList
  shown : isBlankPiece name.toList = false
  own : name.toList ≠ ['.', '.']

section Pieces
variable {chars rest part : List Char} {parts : List (List Char)}

theorem piecesSplit (chars : List Char) : pieces chars = chars.splitOn '/' := by
  induction chars with
  | nil => rfl
  | cons c rest ih =>
    rw [pieces, ih, List.splitOn_cons_eq_if_modifyHead]
    by_cases slash : c = '/'
    · simp [slash]
    · cases more : rest.splitOn '/' with
      | nil => exact absurd more (List.splitOn_ne_nil '/' rest)
      | cons piece more => simp [slash]

theorem gluePieces (chars : List Char) : glue (pieces chars) = chars := by
  rw [piecesSplit]
  exact List.intercalate_splitOn '/'

theorem piecesGlue (some : parts ≠ []) (single : ∀ part ∈ parts, '/' ∉ part) :
    pieces (glue parts) = parts := by
  rw [piecesSplit]
  exact List.splitOn_intercalate '/' single some

theorem piecesSingle (chars : List Char) : ∀ part ∈ pieces chars, '/' ∉ part := by
  induction chars with
  | nil => simp [pieces]
  | cons c rest ih =>
    unfold pieces
    split
    · exact List.forall_mem_cons.mpr ⟨List.not_mem_nil, ih⟩
    · rename_i plain
      cases more : pieces rest with
      | nil => simpa using Ne.symm plain
      | cons piece more =>
        rw [more] at ih
        obtain ⟨first, later⟩ := List.forall_mem_cons.mp ih
        exact List.forall_mem_cons.mpr ⟨by simp [first, Ne.symm plain], later⟩

theorem glueCons (part : List Char) (some : parts ≠ []) :
    glue (part :: parts) = part ++ '/' :: glue parts := by
  rw [glue, List.intercalate_cons_of_ne_nil some, List.append_assoc]
  rfl

theorem glueConcat (some : parts ≠ []) (part : List Char) :
    glue (parts ++ [part]) = glue parts ++ '/' :: part := by
  induction parts with
  | nil => exact absurd rfl some
  | cons first parts ih =>
    by_cases more : parts = []
    · simp [more, glue, List.intercalate_cons_cons]
    · rw [List.cons_append, glueCons first (by simp), glueCons first more, ih more]
      simp

theorem glueLast (some : part ≠ []) : (glue (parts ++ [part])).getLast? = part.getLast? := by
  by_cases more : parts = []
  · simp [more, glue]
  · rw [glueConcat more, List.getLast?_append_cons, List.getLast?_cons]
    obtain ⟨last, same⟩ := Option.isSome_iff_exists.mp (List.getLast?_isSome.mpr some)
    rw [same]
    rfl

theorem dropPrefix (parts : List (List Char)) : dropBlankEnd parts <+: parts :=
  List.rdropWhile_prefix isBlankPiece parts

theorem dropShown (shown : isBlankPiece part = false) :
    dropBlankEnd (parts ++ [part]) = parts ++ [part] :=
  List.rdropWhile_concat_neg isBlankPiece parts part (by simp [shown])

theorem dropTwice (parts : List (List Char)) :
    dropBlankEnd (dropBlankEnd parts) = dropBlankEnd parts :=
  List.rdropWhile_idempotent isBlankPiece parts

theorem dropEnds (some : dropBlankEnd parts ≠ []) : ∃ before part,
    dropBlankEnd parts = before ++ [part] ∧ isBlankPiece part = false := by
  refine ⟨_, _, (List.dropLast_append_getLast some).symm, ?_⟩
  exact Bool.eq_false_iff.mpr (List.rdropWhile_last_not isBlankPiece parts some)

theorem splitShown (single : '/' ∉ part) (shown : isBlankPiece part = false) :
    split (part ++ rest) = ([], part ++ rest) := by
  generalize same : part ++ rest = chars
  fun_cases split chars with
  | case1 more => cases part <;> simp_all [isBlankPiece]
  | case2 => cases part <;> simp_all [isBlankPiece]
  | case3 more =>
    cases part with
    | nil => simp [isBlankPiece] at shown
    | cons c part => cases part <;> simp_all [isBlankPiece]
  | case4 => rfl

end Pieces

inductive Begins : List Char → List (List Char) → Prop
  | root (before) : Begins ['/'] before
  | here (before) : Begins ['.'] ([] :: before)
  | bare : Begins [] []
  | named {part} (before) (shown : isBlankPiece part = false) : Begins [] (part :: before)

def folderOf (lead : List Char) (before : List (List Char)) : Path :=
  ⟨String.ofList (lead ++ glue (dropBlankEnd before))⟩

section Files
variable {p folder : Path} {name : String} {lead : List Char} {before : List (List Char)}

structure Names (p : Path) (lead : List Char) (before : List (List Char)) (name : String) : Prop where
  begins : Begins lead before
  single : ∀ part ∈ before, '/' ∉ part
  plain : Plain name
  parent : p.parent? = some (folderOf lead before)

theorem splitBegins {chars body part : List Char} {blanks : List (List Char)}
    (cut : split chars = (lead, body)) (all : pieces body = before ++ part :: blanks)
    (shown : isBlankPiece part = false) : Begins lead before := by
  revert cut
  fun_cases split chars with
  | case1 rest =>
    rintro ⟨⟩
    exact .root before
  | case2 =>
    rintro ⟨⟩
    cases before <;> simp_all [pieces, isBlankPiece]
  | case3 rest =>
    rintro ⟨⟩
    cases before with
    | nil => simp_all [pieces, isBlankPiece]
    | cons first before =>
      obtain ⟨rfl, _⟩ := List.cons.inj all
      exact .here before
  | case4 _ root _ slashed =>
    rintro ⟨⟩
    cases before with
    | nil => exact .bare
    | cons first before =>
      refine .named before (Bool.eq_false_iff.mpr fun blank => ?_)
      have text := gluePieces chars
      rw [all, List.cons_append, glueCons first (by simp)] at text
      rcases (by simpa [isBlankPiece] using blank : first = [] ∨ first = ['.']) with rfl | rfl
      · exact root _ text.symm
      · exact slashed _ text.symm

theorem nameOpened (named : p.fileName? = some name) : ∃ lead body before blanks,
    split p.text.toList = (lead, body) ∧ pieces body = before ++ name.toList :: blanks ∧
      dropBlankEnd (pieces body) = before ++ [name.toList] ∧ Plain name := by
  unfold fileName? at named
  cases cut : split p.text.toList with
  | mk lead body =>
  rw [cut] at named
  have kept : dropBlankEnd (pieces body) ≠ [] := by
    intro none
    simp [none] at named
  obtain ⟨before, part, ends, shown⟩ := dropEnds kept
  rw [ends, List.getLast?_concat] at named
  obtain ⟨blanks, all⟩ : before ++ [part] <+: pieces body :=
    ends ▸ dropPrefix (pieces body)
  rw [List.append_assoc] at all
  have single : '/' ∉ part := piecesSingle body part (all ▸ by simp)
  by_cases own : part = ['.', '.']
  · simp [own] at named
  · simp only [own, ↓reduceIte, Option.some.injEq] at named
    subst named
    refine ⟨lead, body, before, blanks, rfl, ?_⟩
    rw [String.toList_ofList]
    exact ⟨all.symm, ends, by constructor <;> rwa [String.toList_ofList]⟩

theorem parentOpened {body part : List Char} (cut : split p.text.toList = (lead, body))
    (ends : dropBlankEnd (pieces body) = before ++ [part]) : p.parent? = some (folderOf lead before) := by
  have kept : dropBlankEnd (pieces body) ≠ [] := by simp [ends]
  unfold parent?
  simp only [cut]
  rw [ends, List.dropLast_concat]
  rfl

theorem namesOpened (named : p.fileName? = some name) : ∃ lead before, Names p lead before name := by
  obtain ⟨lead, body, before, blanks, cut, all, ends, plain⟩ := nameOpened named
  exact ⟨lead, before, splitBegins cut all plain.shown, fun piece member =>
    piecesSingle body piece (all ▸ List.mem_append_left _ member), plain, parentOpened cut ends⟩

theorem begunKept (begins : Begins lead before) (kept : dropBlankEnd before ≠ []) :
    Begins lead (dropBlankEnd before) := by
  obtain ⟨first, more, same⟩ := List.exists_cons_of_ne_nil kept
  obtain ⟨blanks, all⟩ := dropPrefix before
  rw [same] at all ⊢
  cases begins with
  | root => exact .root _
  | here =>
    obtain ⟨rfl, _⟩ := List.cons.inj all
    exact .here more
  | bare => cases all
  | named _ shown =>
    obtain ⟨rfl, _⟩ := List.cons.inj all
    exact .named more shown

theorem splitBegan {kept : List (List Char)} (begins : Begins lead kept) (some : kept ≠ [])
    (single : ∀ part ∈ kept, '/' ∉ part) :
    split (lead ++ glue kept) = (lead, glue kept) := by
  cases begins with
  | root => rfl
  | here before =>
    cases before with
    | nil => rfl
    | cons part before =>
      rw [glueCons [] (by simp)]
      rfl
  | bare => exact absurd rfl some
  | @named part before shown =>
    have alone := single part List.mem_cons_self
    cases before with
    | nil =>
      have only : glue [part] = part ++ [] := by simp [glue]
      rw [List.nil_append, only]
      exact splitShown alone shown
    | cons next before =>
      rw [List.nil_append, glueCons part (by simp)]
      exact splitShown alone shown

theorem begunMore {piece : List Char} (begins : Begins lead before) (shown : isBlankPiece piece = false) :
    Begins lead (before ++ [piece]) := by
  cases begins with
  | root => exact .root _
  | here => exact .here _
  | bare => exact .named [] shown
  | named _ shown' => exact .named _ shown'

theorem splitBegun {piece : List Char} (begins : Begins lead before)
    (single : ∀ part ∈ before, '/' ∉ part) (alone : '/' ∉ piece) (shown : isBlankPiece piece = false) :
    split (lead ++ glue (before ++ [piece])) = (lead, glue (before ++ [piece])) :=
  splitBegan (begunMore begins shown) (by simp)
    (List.forall_mem_append.mpr ⟨single, by simpa using alone⟩)

theorem joinOpened {other : String} (begins : Begins lead before)
    (single : ∀ part ∈ before, '/' ∉ part) (plain : Plain other) : ∃ kept, Begins lead kept ∧
      (∀ part ∈ kept, '/' ∉ part) ∧ dropBlankEnd kept = dropBlankEnd before ∧
      ((folderOf lead before).join other).text.toList = lead ++ glue (kept ++ [other.toList]) := by
  have relative : other.toList.head? ≠ some '/' := fun root =>
    plain.single (List.mem_of_mem_head? root)
  by_cases kept : dropBlankEnd before = []
  · have only : glue [other.toList] = other.toList := by simp [glue]
    cases begins with
    | root =>
      refine ⟨[], .root _, by simp, kept.symm, ?_⟩
      simp [join, folderOf, kept, relative, glue]
    | here =>
      refine ⟨[[]], .here _, by simp, kept.symm, ?_⟩
      simp [join, folderOf, kept, relative, glue]
    | bare =>
      refine ⟨[], .bare, by simp, kept.symm, ?_⟩
      simp [join, folderOf, kept, relative, glue]
    | named before shown =>
      exact absurd (List.rdropWhile_eq_nil_iff.mp kept _ List.mem_cons_self) (by simp [shown])
  · obtain ⟨first, last, same, shown⟩ := dropEnds kept
    refine ⟨dropBlankEnd before, begunKept begins kept, ?_, dropTwice before, ?_⟩
    · exact fun part member => single part ((dropPrefix before).subset member)
    · have own : '/' ∉ last := single last ((dropPrefix before).subset (same ▸ by simp))
      have some : last ≠ [] := fun none => by simp [none, isBlankPiece] at shown
      have ending : (lead ++ glue (dropBlankEnd before)).getLast? = last.getLast? := by
        rw [List.getLast?_append, same, glueLast some]
        obtain ⟨c, here⟩ := Option.isSome_iff_exists.mp (List.getLast?_isSome.mpr some)
        rw [here]
        rfl
      have apart : (lead ++ glue (dropBlankEnd before)).getLast? ≠ Option.some '/' := fun slash =>
        own (List.mem_of_getLast? (ending.symm.trans slash))
      have text : lead ++ glue (dropBlankEnd before) ≠ [] := fun none => by
        rw [none, List.getLast?_nil] at ending
        exact some (List.getLast?_eq_none_iff.mp ending.symm)
      rw [glueConcat kept, ← List.append_assoc]
      simp only [join, folderOf, String.toList_ofList, relative, text, apart, or_self, ↓reduceIte,
        String.toList_append]
      simp

theorem siblingFile {other : String} (named : p.fileName? = some name)
    (within : p.parent? = some folder) (plain : Plain other) :
    (folder.join other).fileName? = some other ∧ (folder.join other).parent? = some folder ∧
      (folder.join other).components.getLast? = some (.normal other) := by
  obtain ⟨lead, before, names⟩ := namesOpened named
  obtain rfl := Option.some.inj (within.symm.trans names.parent)
  obtain ⟨kept, begins, single, same, text⟩ := joinOpened names.begins names.single plain
  have cut := splitBegun begins single plain.single plain.shown
  have pieced : pieces (glue (kept ++ [other.toList])) = kept ++ [other.toList] :=
    piecesGlue (by simp) (List.forall_mem_append.mpr ⟨single, by simpa using plain.single⟩)
  have ends : dropBlankEnd (kept ++ [other.toList]) = kept ++ [other.toList] := dropShown plain.shown
  refine ⟨?_, ?_, ?_⟩
  · simp [fileName?, text, cut, pieced, ends, plain.own]
  · have some : dropBlankEnd (kept ++ [other.toList]) ≠ [] := by simp [ends]
    simp only [parent?, text, cut, pieced]
    rw [ends, List.dropLast_concat, same]
    rfl
  · simp [components, text, cut, pieced, plain.shown, Component.ofPiece, plain.own]

theorem siblingsDistinct {names : List String} (named : p.fileName? = some name)
    (within : p.parent? = some folder) (plain : ∀ own ∈ names, Plain own) (apart : names.Nodup) :
    ((names.map folder.join).map components).Nodup := by
  have last (own : String) (member : own ∈ names) :
      (folder.join own).components.getLast? = some (.normal own) :=
    (siblingFile named within (plain own member)).2.2
  rw [List.map_map]
  refine apart.map_on fun a here b there same => ?_
  have ends := congrArg List.getLast? same
  simp only [Function.comp_def, last a here, last b there] at ends
  cases ends
  rfl

theorem plainLong (single : '/' ∉ name.toList) (long : 2 < name.toList.length) : Plain name := by
  refine ⟨single, ?_, fun own => ?_⟩
  · cases same : name.toList with
    | nil => simp [same] at long
    | cons c rest =>
      cases rest with
      | nil => simp [same] at long
      | cons d rest => simp [isBlankPiece]
  · simp [own] at long

theorem joinMore (folder : Path) {first : String} (some : first ≠ "") (more : String) :
    (⟨(folder.join first).text ++ more⟩ : Path) = folder.join (first ++ more) := by
  have alike : (first ++ more).toList.head? = first.toList.head? := by
    rw [String.toList_append, List.head?_append_of_ne_nil]
    exact fun none => some (String.toList_eq_nil_iff.mp none)
  unfold join
  rw [alike]
  split
  · rfl
  · simp only
    split <;> simp [String.append_assoc]

theorem stemWithin (name : List Char) : ∀ c ∈ stem name, c ∈ name := by
  intro c member
  unfold stem at member
  split at member
  · exact member
  · rename_i before same
    split at member
    · exact member
    · have part := (List.dropWhile_suffix (p := (· ≠ '.')) (l := name.reverse)).subset
      rw [same] at part
      exact List.mem_reverse.mp (part (List.mem_cons_of_mem _ (List.mem_reverse.mp member)))

theorem stemSome {name : List Char} (some : name ≠ []) : stem name ≠ [] := by
  unfold stem
  split
  · exact some
  · split
    · exact some
    · rename_i more
      exact fun none => more (List.reverse_eq_nil_iff.mp none)

theorem stemExtended {front letters : List Char} (some : front ≠ []) (dotless : '.' ∉ letters) :
    stem (front ++ '.' :: letters) = front := by
  have passed : ∀ c ∈ letters.reverse, decide (c ≠ '.') = true := fun c member =>
    decide_eq_true fun dot => dotless (dot ▸ List.mem_reverse.mp member)
  have ends : (front ++ '.' :: letters).reverse.dropWhile (· ≠ '.') = '.' :: front.reverse := by
    rw [List.reverse_append, List.reverse_cons, List.append_assoc, List.dropWhile_append_of_pos passed]
    rfl
  unfold stem
  rw [ends]
  simp [some]

end Files
end Telecine.Path
