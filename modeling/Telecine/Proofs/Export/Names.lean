import Mathlib.Data.List.Nodup
import Telecine.Export.Production
import Telecine.Proofs.Media.CardFeed

/-! The names of an export's files: no two files of one export have the same. -/
namespace Telecine

theorem Path.joinApart {p : Path} {a b : String} (alike : a.toList.head? = b.toList.head?)
    (same : p.join a = p.join b) : a = b := by
  have cancel {first : String} (joined : (⟨first ++ a⟩ : Path) = ⟨first ++ b⟩) : a = b := by
    have text := congrArg (·.text.toList) joined
    simp only [String.toList_append, List.append_cancel_left_eq] at text
    exact String.toList_injective text
  unfold join at same
  rw [← alike] at same
  split at same
  · exact congrArg Path.text same
  · simp only at same
    split at same <;> exact cancel same

theorem Path.siblingsApart {p : Path} {a b : String} (alike : a.toList.head? = b.toList.head?)
    (same : p.withFileName a = p.withFileName b) : a = b := by
  unfold withFileName at same
  split at same <;> exact joinApart alike same

theorem numeralsApart {n m : Nat} (same : (toString n).toList = (toString m).toList) : n = m := by
  have value (k : Nat) : Nat.ofDigitChars 10 (toString k).toList 0 = k := by
    rw [show toString k = k.repr from rfl, Nat.toList_repr, Nat.ofDigitChars_ten_toDigits]
  rw [← value n, ← value m, same]

theorem Job.basesApart (job : Job) (sets : Nat) : (job.bases sets).Nodup := by
  unfold bases
  by_cases single : sets ≤ 1
  · rw [if_pos single]
    exact List.nodup_singleton _
  · rw [if_neg single]
    refine (List.nodup_range (n := sets)).map fun n m same => ?_
    have names := Path.siblingsApart (by simp [String.toList_append, List.head?_append]) same
    have numbers := congrArg String.toList names
    simp only [String.toList_append, List.append_cancel_left_eq] at numbers
    exact Nat.succ.inj (numeralsApart numbers)

section Eyes
open TestCard
variable {film : Film} {extension : String}

theorem eyePathApart {base other : Path} {eye eye' : Eye} (own : eye ∈ eyes film)
    (own' : eye' ∈ eyes film) (same : eyePath base eye extension = eyePath other eye' extension) :
    base = other ∧ eye = eye' := by
  have text := congrArg (·.text.toList) same
  simp only [eyePath, String.toList_append, List.append_cancel_right_eq] at text
  have sides : eye = eye' := by
    have ends := congrArg List.getLast? text
    unfold eyes at own own'
    clear text same
    cases two : film.stereoscopic <;> cases eye <;> cases eye' <;> simp_all [Eye.suffix]
  subst sides
  exact ⟨congrArg Path.mk (String.toList_injective (List.append_cancel_right text)), rfl⟩

theorem pathsApart (film : Film) {bases : List Path} (apart : bases.Nodup) (extension : String) :
    (bases.flatMap fun base => (eyes film).map (eyePath base · extension)).Nodup := by
  have distinct : (eyes film).Nodup := by
    unfold eyes
    cases film.stereoscopic <;> decide
  refine List.nodup_flatMap.mpr ⟨fun base _ => ?_, apart.imp ?_⟩
  · exact distinct.map_on fun eye own eye' own' same => (eyePathApart own own' same).2
  · intro base other differ path inside inside'
    obtain ⟨eye, own, rfl⟩ := List.mem_map.mp inside
    obtain ⟨eye', own', same⟩ := List.mem_map.mp inside'
    exact differ (eyePathApart own' own same).1.symm

end Eyes
end Telecine
