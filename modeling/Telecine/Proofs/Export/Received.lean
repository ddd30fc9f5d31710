import Telecine.Proofs.Export.Answers
import Telecine.Proofs.Media.CardFeed

/-! What each file is given where the frames of a film are sent one after the other, each to the set of
its reel. -/
namespace Telecine

def received (calls : List (Outlet × Delivery)) (outlet : Outlet) : List Delivery :=
  calls.filterMap fun call => if call.1 = outlet then some call.2 else none

section Files
variable {calls : List (Outlet × Delivery)} {outlet : Outlet}

theorem receivedAppend (first rest : List (Outlet × Delivery)) :
    received (first ++ rest) outlet = received first outlet ++ received rest outlet :=
  List.filterMap_append

theorem receivedCons (call : Outlet × Delivery) :
    received (call :: calls) outlet =
      (if call.1 = outlet then [call.2] else []) ++ received calls outlet := by
  by_cases same : call.1 = outlet <;> simp [received, same]

theorem receivedNever (never : ∀ call ∈ calls, call.1 ≠ outlet) : received calls outlet = [] := by
  refine List.filterMap_eq_nil_iff.mpr fun call member => ?_
  rw [if_neg (never call member)]

theorem receivedOnce {α : Type} {entries : List α} {outletOf : α → Outlet} {what : α → Delivery}
    (apart : (entries.map outletOf).Nodup) {entry : α} (member : entry ∈ entries) :
    received (entries.map fun e => (outletOf e, what e)) (outletOf entry) = [what entry] := by
  induction entries with
  | nil => cases member
  | cons first rest ih =>
    obtain ⟨new, apart⟩ := List.nodup_cons.mp apart
    rcases List.mem_cons.mp member with rfl | later
    · have others : received (rest.map fun e => (outletOf e, what e)) (outletOf entry) = [] := by
        refine receivedNever ?_
        intro call inside same
        obtain ⟨e, there, rfl⟩ := List.mem_map.mp inside
        exact new (same ▸ List.mem_map_of_mem there)
      rw [List.map_cons, receivedCons, if_pos rfl, others]
      rfl
    · have differ : outletOf first ≠ outletOf entry :=
        fun same => new (same ▸ List.mem_map_of_mem later)
      rw [List.map_cons, receivedCons, if_neg differ]
      exact ih apart later

end Files

namespace FileSet

def files : FileSet → List (Eye × Outlet)
  | .flat both => [(.both, both)]
  | .stereo left right => [(.left, left), (.right, right)]

theorem filesOutlets (set : FileSet) : set.files.map Prod.snd = set.outlets := by cases set <;> rfl

end FileSet

section Frames
open TestCard
variable {film : Film} {set : FileSet} {n frames : Nat} {sound : Sound}

def frameSent (film : Film) (set : FileSet) (n : Nat) (sound : Sound) : List (Outlet × Delivery) :=
  set.files.map (fun file => (file.2, .picture (shownPicture film n file.1))) ++
    set.files.map fun file => (file.2, .sound sound)

theorem frameShown (same : set.isStereo = film.stereoscopic) :
    ((eyes film).map (shownPicture film n)).flatMap set.shown =
      set.files.map fun file => (file.2, .picture (shownPicture film n file.1)) := by
  unfold eyes
  cases set <;> simp only [FileSet.isStereo] at same <;> rw [← same] <;> rfl

theorem frameTaken (same : set.isStereo = film.stereoscopic) :
    ∀ p ∈ (eyes film).map (shownPicture film n),
      set.Takes p ∧ p.damaged = false ∧ set.shown p ≠ [] := by
  unfold eyes FileSet.Takes
  cases set <;> simp only [FileSet.isStereo] at same <;> rw [← same] <;>
    simp [FileSet.shown, shownPicture, FileSet.isStereo]

theorem receivedHere (apart : set.outlets.Nodup) {eye : Eye} {outlet : Outlet}
    (member : (eye, outlet) ∈ set.files) :
    received (frameSent film set n sound) outlet =
      [.picture (shownPicture film n eye), .sound sound] := by
  rw [← set.filesOutlets] at apart
  rw [frameSent, receivedAppend, receivedOnce apart member, receivedOnce apart member]
  rfl

theorem frameOutlets : ∀ call ∈ frameSent film set n sound, call.1 ∈ set.outlets := by
  intro call member
  rw [← set.filesOutlets]
  rcases List.mem_append.mp member with inside | inside
  all_goals
    obtain ⟨file, there, rfl⟩ := List.mem_map.mp inside
    exact List.mem_map_of_mem there

theorem receivedElsewhere {outlet : Outlet} (outside : outlet ∉ set.outlets) :
    received (frameSent film set n sound) outlet = [] :=
  receivedNever fun call member same => outside (same ▸ frameOutlets call member)

variable {sets : List FileSet} {i : Nat} {eye : Eye} {outlet : Outlet} {reelOf : Nat → Nat}
  {setOf : Nat → FileSet} {soundOf : Nat → Sound}

theorem outletSet (apart : (sets.flatMap FileSet.outlets).Nodup) {j : Nat} {other : FileSet}
    (here : sets[i]? = some set) (there : sets[j]? = some other) (inside : outlet ∈ set.outlets)
    (inside' : outlet ∈ other.outlets) : i = j := by
  have disjoint := List.pairwise_iff_getElem.mp (List.nodup_flatMap.mp apart).2
  obtain ⟨low, rfl⟩ := List.getElem?_eq_some_iff.mp here
  obtain ⟨low', rfl⟩ := List.getElem?_eq_some_iff.mp there
  rcases Nat.lt_trichotomy i j with less | same | more
  · exact absurd inside' (disjoint i j low low' less inside)
  · exact same
  · exact absurd inside (disjoint j i low' low more inside')

theorem receivedFrames (apart : (sets.flatMap FileSet.outlets).Nodup) (here : sets[i]? = some set)
    (member : (eye, outlet) ∈ set.files) {ns : List Nat}
    (there : ∀ n ∈ ns, sets[reelOf n]? = some (setOf n)) :
    received (ns.flatMap fun n => frameSent film (setOf n) n (soundOf n)) outlet =
      (ns.filter (reelOf · = i)).flatMap fun n =>
        [.picture (shownPicture film n eye), .sound (soundOf n)] := by
  have own := (List.nodup_flatMap.mp apart).1
  induction ns with
  | nil => rfl
  | cons n ns ih =>
    obtain ⟨found, there⟩ := List.forall_mem_cons.mp there
    rw [List.flatMap_cons, receivedAppend, ih there, List.filter_cons]
    by_cases same : reelOf n = i
    · obtain rfl : setOf n = set := Option.some.inj ((same ▸ found).symm.trans here)
      rw [receivedHere (own _ (List.mem_of_getElem? here)) member]
      simp [same]
    · have outside : outlet ∉ (setOf n).outlets := by
        intro inside
        have own' : outlet ∈ set.outlets := by
          rw [← set.filesOutlets]
          exact List.mem_map_of_mem member
        exact same (outletSet apart found here inside own')
      rw [receivedElsewhere outside]
      simp [same]

theorem receivedWhole (apart : (sets.flatMap FileSet.outlets).Nodup) (here : sets[i]? = some set)
    (member : (eye, outlet) ∈ set.files) {ns : List Nat}
    (there : ∀ n ∈ ns, sets[reelOf n]? = some (setOf n)) :
    received (ns.flatMap (fun n => frameSent film (setOf n) n (soundOf n)) ++
        (sets.flatMap FileSet.outlets).map (·, .finish)) outlet =
      (ns.filter (reelOf · = i)).flatMap (fun n =>
        [.picture (shownPicture film n eye), .sound (soundOf n)]) ++ [.finish] := by
  have inside : outlet ∈ sets.flatMap FileSet.outlets := by
    refine List.mem_flatMap.mpr ⟨set, List.mem_of_getElem? here, ?_⟩
    rw [← set.filesOutlets]
    exact List.mem_map_of_mem member
  have finished : received ((sets.flatMap FileSet.outlets).map (·, .finish)) outlet = [.finish] :=
    @receivedOnce Outlet _ id (fun _ => .finish) (by rwa [List.map_id]) outlet inside
  rw [receivedAppend, receivedFrames apart here member there, finished]

theorem sentOnly {ns : List Nat} (there : ∀ n ∈ ns, sets[reelOf n]? = some (setOf n)) :
    ∀ call ∈ ns.flatMap (fun n => frameSent film (setOf n) n (soundOf n)) ++
        (sets.flatMap FileSet.outlets).map (·, .finish),
      call.1 ∈ sets.flatMap FileSet.outlets := by
  intro call member
  rcases List.mem_append.mp member with sent | finished
  · obtain ⟨n, inside, sent⟩ := List.mem_flatMap.mp sent
    exact List.mem_flatMap.mpr ⟨setOf n, List.mem_of_getElem? (there n inside),
      frameOutlets call sent⟩
  · obtain ⟨outlet, inside, rfl⟩ := List.mem_map.mp finished
    exact inside

end Frames

/-! The frames of a test card as the ticks of a transfer. -/

section Card
open Transfer Lookahead TestCard
variable {film : Film} {mix : Mix}

theorem cardFramed {frames : Nat} (work : Workable film frames) :
    Framed (TestCard.feed ⟨film, frames, 0, []⟩) film.lengthFrames.toNat (eyes film).length frames
      (fun n => (eyes film).map (shownPicture film n)) (frameSound film frames) := by
  obtain ⟨items, ending⟩ := feedExact work
  have sounds := frameSoundWhole work.fit.channels.1 frames
  refine ⟨?_, ending, fun n => List.length_map _, fun n => (sounds n).2⟩
  rw [items]
  refine List.flatMap_congr fun n _ => ?_
  simp only [framed, frameItems, List.map_map, Function.comp_def]

theorem eyesCount (plan : Plan) (same : plan.stereoscopic = film.stereoscopic) :
    picturesPerTick plan = (eyes film).length := by
  unfold picturesPerTick eyes
  rw [same]
  cases film.stereoscopic <;> rfl

theorem frameTickSent {feed : Feed} {last perFrame frames n : Nat} {setOf : Nat → FileSet}
    (form : Framed feed last perFrame frames (fun n => (eyes film).map (shownPicture film n))
      (frameSound film frames))
    (same : (setOf n).isStereo = film.stereoscopic) :
    (Studio.frameTick form (Eq.refl (mix.outputs * frames)) setOf n).sent mix.outputs frames =
      frameSent film (setOf n) n (mix.apply (frameSound film frames n)) := by
  have laid : Sound.laidOut mix.outputs frames (mix.apply (frameSound film frames n)).interleaved =
      mix.apply (frameSound film frames n) := by
    have whole := Sound.laidOutInterleaved (mix.applyUniform (frameSound film frames n))
    rwa [Mix.applyChannels, Mix.applyFrames, form.frames] at whole
  simp only [Tick.sent, Studio.frameTick, laid, frameShown same, frameSent,
    ← (setOf n).filesOutlets, List.map_map, Function.comp_def]

theorem framesSent {feed : Feed} {last perFrame frames : Nat} {setOf : Nat → FileSet}
    (form : Framed feed last perFrame frames (fun n => (eyes film).map (shownPicture film n))
      (frameSound film frames))
    (same : ∀ n < last, (setOf n).isStereo = film.stereoscopic) :
    ((List.range last).map (Studio.frameTick form (Eq.refl (mix.outputs * frames)) setOf)).flatMap
        (·.sent mix.outputs frames) =
      (List.range last).flatMap fun n =>
        frameSent film (setOf n) n (mix.apply (frameSound film frames n)) := by
  rw [List.flatMap_map]
  exact List.flatMap_congr fun n low => frameTickSent form (same n (List.mem_range.mp low))

end Card
end Telecine
