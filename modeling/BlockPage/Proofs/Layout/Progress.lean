/-
**Scanning goes through the source once.**

Every segment takes some code points and goes on right behind them, whether it has faults or not. So
scanning ends, looks at no place behind the end and leaves nothing out; what it reports it reports at
code points of the source.

* `Remains`: the position of what remains of a source.
* `Segment.Stays`: a segment that ends at such a position, with its faults at others.
* `scanString_stays`, `scanNumber_stays`, `segment_stays`: every segment does.
* `exists_taken_segment`: a segment takes at least one code point.
* `scanFrom_stays`: whole sources.
-/

import BlockPage.Proofs.Layout.Numerals
import BlockPage.Proofs.Layout.Scanning

namespace BlockPage.Layout

open CodePoint Number

/-- At the position the rest remains of a source. -/
def Remains (begin : Position) (source : Text) (position : Position) (rest : Text) : Prop :=
  ∃ done, source = done ++ rest ∧ position = begin.past done

/-- The position is that of a code point of a source. -/
def IsPlace (begin : Position) (source : Text) (position : Position) : Prop :=
  ∃ first rest, Remains begin source position (first :: rest)

/-- The fault is at a code point of a source. -/
def SourceError.IsWithin (error : SourceError) (begin : Position) (source : Text) : Prop :=
  ∃ position fault, error = .located position fault ∧ IsPlace begin source position

/-- The segment ends where its rest remains of a source, and its faults are in the source. -/
structure Segment.Stays (segment : Segment) (begin : Position) (source : Text) : Prop where
  ends : Remains begin source segment.position segment.rest
  faults : ∀ error ∈ segment.errors, error.IsWithin begin source

section Remains

variable {begin position : Position} {source rest : Text}

theorem remains_start (begin : Position) (source : Text) : Remains begin source begin source :=
  ⟨[], rfl, rfl⟩

/-- What is left behind a part of the rest is what remains of the source. -/
theorem Remains.past (taken : Text) (remains : Remains begin source position (taken ++ rest)) :
    Remains begin source (position.past taken) rest := by
  obtain ⟨done, rfl, rfl⟩ := remains
  exact ⟨done ++ taken, (List.append_assoc _ _ _).symm, (Position.past_append _ _ _).symm⟩

theorem Remains.after {first : CodePoint}
    (remains : Remains begin source position (first :: rest)) :
    Remains begin source (position.after first) rest :=
  remains.past [first]

/-- An error at what remains is inside the source. -/
theorem Remains.isWithin {first : CodePoint} (fault : Fault)
    (remains : Remains begin source position (first :: rest)) :
    (SourceError.located position fault).IsWithin begin source :=
  ⟨position, fault, rfl, first, rest, remains⟩

/-- A segment with at most one fault, at its first code point. -/
theorem Remains.stays {first : CodePoint} {behind : Text} {lexeme : Option Lexeme}
    {errors : List SourceError} (remains : Remains begin source position (first :: rest))
    (taken : Text) (same : first :: rest = taken ++ behind)
    (faults : ∀ error ∈ errors, ∃ fault, error = .located position fault) :
    Segment.Stays ⟨lexeme, errors, position.past taken, behind⟩ begin source where
  ends := (same ▸ remains).past taken
  faults := by
    intro error inside
    obtain ⟨fault, rfl⟩ := faults error inside
    exact remains.isWithin fault

end Remains

section Segments

variable {begin position opened : Position} {source rest : Text} {first quote : CodePoint}

/-- A string keeps to the source, its faults included. -/
theorem scanString_stays {decoded : Text} {errors : List SourceError}
    (place : IsPlace begin source opened) (remains : Remains begin source position rest)
    (faults : ∀ error ∈ errors, error.IsWithin begin source) :
    (scanString opened quote position decoded errors rest).Stays begin source := by
  have reversed : ∀ {errors : List SourceError}, (∀ error ∈ errors, error.IsWithin begin source) →
      ∀ error ∈ errors.reverse, error.IsWithin begin source :=
    fun faults error inside => faults error (List.mem_reverse.mp inside)
  have open' : (SourceError.located opened .unterminatedString).IsWithin begin source :=
    ⟨opened, _, rfl, place⟩
  fun_induction scanString opened quote position decoded errors rest with
  | case1 => exact ⟨remains, reversed (List.forall_mem_cons.mpr ⟨open', faults⟩)⟩
  | case2 => exact ⟨remains.after, reversed faults⟩
  | case3 _ _ _ _ _ _ _ _ ih => exact ih remains.after faults
  | case4 => exact ⟨remains.after, reversed (List.forall_mem_cons.mpr ⟨open', faults⟩)⟩
  | case5 _ _ _ _ _ _ _ _ _ _ _ _ ih => exact ih remains.after.after faults
  | case6 _ _ _ _ _ _ _ _ _ _ _ _ ih =>
    exact ih remains.after.after (List.forall_mem_cons.mpr ⟨remains.isWithin _, faults⟩)
  | case7 _ _ _ _ _ _ _ _ _ _ _ second third fourth fifth _ _ _ ih =>
    exact ih (remains.after.after.past [second, third, fourth, fifth]) faults
  | case8 _ _ _ _ _ _ _ _ _ _ _ _ _ _ _ _ _ ih =>
    exact ih remains.after.after (List.forall_mem_cons.mpr ⟨remains.isWithin _, faults⟩)
  | case9 _ _ _ _ _ _ _ _ _ _ _ _ _ ih =>
    exact ih remains.after.after (List.forall_mem_cons.mpr ⟨remains.isWithin _, faults⟩)

theorem scanNumber_stays (remains : Remains begin source position (first :: rest))
    (starts : (isDigit first || (first = hyphen && rest.head?.any isDigit)) = true) :
    (scanNumber position (first :: rest)).Stays begin source := by
  have same := (written_of_numeral starts).2.symm
  unfold scanNumber
  dsimp only
  split
  · refine remains.stays _ ?_ fun error inside => ⟨_, List.mem_singleton.mp inside⟩
    rw [List.append_assoc, List.takeWhile_append_dropWhile]
    exact same
  · split
    · exact remains.stays _ same fun _ inside => nomatch inside
    · exact remains.stays _ same fun error inside => ⟨_, List.mem_singleton.mp inside⟩

/-- **Every segment** ends where its rest remains, and its faults are in the source. -/
theorem segment_stays (remains : Remains begin source position (first :: rest)) :
    (segment position first rest).Stays begin source := by
  have clean : ∀ error ∈ ([] : List SourceError), ∃ fault, error = .located position fault :=
    fun _ inside => nomatch inside
  have alone : ∀ fault, ∀ error ∈ [SourceError.located position fault],
      ∃ fault, error = .located position fault :=
    fun fault error inside => ⟨fault, List.mem_singleton.mp inside⟩
  unfold segment
  dsimp only
  split
  · exact remains.stays [first] rfl clean
  split
  · refine remains.stays (first :: rest.takeWhile (· ≠ newline)) ?_ clean
    rw [List.cons_append, List.takeWhile_append_dropWhile]
  split
  · rename_i comment
    obtain ⟨rfl, head⟩ : first = slash ∧ rest.head? = some asterisk := by simpa using comment
    obtain ⟨inner, rfl⟩ := List.head?_eq_some_iff.mp head
    split
    · rename_i behind following found
      obtain ⟨content, free, same⟩ := content_of_skipComment found
      rw [List.drop_one, List.tail_cons] at same found
      rw [same, skipComment_of_content free] at found
      cases found
      refine remains.stays (slash :: asterisk :: (content ++ [asterisk, slash])) ?_ clean
      rw [same]
      simp
    · refine remains.stays (slash :: asterisk :: inner) ?_ (alone _)
      rw [List.append_nil]
  split
  · exact remains.stays [first] rfl clean
  split
  · exact scanString_stays ⟨first, rest, remains⟩ remains.after fun _ inside => nomatch inside
  split
  · rename_i starts
    exact scanNumber_stays remains starts
  split
  · refine remains.stays (first :: rest.takeWhile continuesIdentifier) ?_ clean
    rw [List.cons_append, List.takeWhile_append_dropWhile]
  · exact remains.stays [first] rfl (alone _)

end Segments

/-- **Progress.** A segment takes code points, one at least, and goes on right behind them. -/
theorem exists_taken_segment (position : Position) (first : CodePoint) (rest : Text) :
    ∃ taken, taken ≠ [] ∧ first :: rest = taken ++ (segment position first rest).rest ∧
      (segment position first rest).position = position.past taken := by
  obtain ⟨taken, same, place⟩ := (segment_stays (remains_start position (first :: rest))).ends
  refine ⟨taken, ?_, same, place⟩
  rintro rfl
  have shorter := segment_rest_le position first rest
  rw [List.nil_append] at same
  rw [← same, List.length_cons] at shorter
  omega

/-- **Whole sources.** Scanning ends at the end. Its tokens and its faults are in the source. -/
theorem scanFrom_stays {begin position : Position} {source rest : Text}
    (remains : Remains begin source position rest) :
    (scanFrom position [] [] rest).finish = begin.past source ∧
      (∀ token ∈ (scanFrom position [] [] rest).tokens, IsPlace begin source token.position) ∧
      ∀ error ∈ (scanFrom position [] [] rest).errors, error.IsWithin begin source := by
  -- on the length, as segments are longer than one code point
  induction length : rest.length using Nat.strongRecOn generalizing position rest with
  | _ bound ih =>
    cases rest with
    | nil =>
      obtain ⟨done, rfl, rfl⟩ := remains
      rw [scanFrom_nil, List.append_nil]
      exact ⟨rfl, fun _ inside => (nomatch inside), fun _ inside => nomatch inside⟩
    | cons first rest =>
      have stays := segment_stays remains
      have shorter := segment_rest_le position first rest
      obtain ⟨finish, tokens, errors⟩ :=
        ih _ (by rw [← length, List.length_cons]; omega) stays.ends rfl
      rw [scanFrom_step]
      refine ⟨finish, List.forall_mem_append.mpr ⟨fun token inside => ?_, tokens⟩,
        List.forall_mem_append.mpr ⟨stays.faults, errors⟩⟩
      obtain ⟨lexeme, _, rfl⟩ := Option.map_eq_some_iff.mp (Option.mem_toList.mp inside)
      exact ⟨first, rest, remains⟩

end BlockPage.Layout
