/-
**The records of a text.**

A text is a list of records between semicolons, and a record a list of fields between bars. That blanks are
taken away twice, around the record and around its fields, is the same as taking them away around the
fields. Fields that hold neither mark and have no blanks at their ends come back as they are, empty ones at
the ends of a record included: what is trimmed around a record is never a bar. One field is too few for this,
as the empty text is no record instead of an empty one.

* `parts`, `length_parts`: the parts of a text that are its records.
* `completed`, `field_completed`: the fields of a part, with something in place of those it lacks.
* `splitList_shown`, `splitRecords_eq_ok_iff`: what is read as the records of a value.
* `joinRecords`, `AreRecords`: the written form, and the records that have one.
* `splitRecord_join`, `joinRecords_ne_nil`: one record, and why there are at least two fields.
* `isFieldText_of_mem`: the fields of any record that is read.
* `recordsOf_eq_ok_iff`: a number of fields that can be too large to be made.
* `recordsOf_exact`: the records of a text.
-/

import BlockPage.Library.Arguments
import BlockPage.Proofs.Library.Readings
import BlockPage.Proofs.Text.Parts
import BlockPage.Proofs.Traversal

namespace BlockPage.Library

open CodePoint

/-! ### Parts -/

/-- The parts of a text between semicolons. The empty text has none. -/
def parts (text : Text) : List Text := if text = [] then [] else List.splitOn CodePoint.semicolon text

/-- There is one part more than there are semicolons, but none of the empty text. -/
theorem length_parts (text : Text) :
    (parts text).length = if text = [] then 0 else 1 + text.count CodePoint.semicolon := by
  unfold parts
  split
  · rfl
  · exact Text.length_splitOn CodePoint.semicolon text

/-- The fields of a part between bars, without blanks around them, one for each fallback. That stands in for
a field that is missing or empty; further fields are left out. -/
def completed (fallbacks : List Text) (part : Text) : List Text :=
  fallbacks.mapIdx fun place fallback =>
    orElse (Text.strip ((List.splitOn CodePoint.verticalBar part).getD place [])) fallback

theorem orElse_nil (text : Text) : orElse text [] = text := by
  cases text <;> rfl

/-- Blanks around a record make no difference to its fields. -/
theorem map_strip_fields (part : Text) :
    (Text.splitOn [CodePoint.verticalBar] (Text.strip part)).map Text.strip =
      (List.splitOn CodePoint.verticalBar part).map Text.strip := by
  rw [Text.splitOn_point, Text.map_strip_splitOn rfl]

/-- A field of a record is the piece at its place, without blanks around it. -/
theorem field_splitRecord {fields place : Nat} (inside : place < fields) (part : Text) :
    field (splitRecord fields (Text.strip part)) place =
      Text.strip ((List.splitOn CodePoint.verticalBar part).getD place []) := by
  have filled : ∀ (written : List Text) (count : Nat),
      ((written ++ List.replicate count []).take fields).getD place [] = written.getD place [] := by
    intro written count
    rw [List.getD_eq_getElem?_getD, List.getElem?_take_of_lt inside, List.getD_eq_getElem?_getD]
    by_cases known : place < written.length
    · rw [List.getElem?_append_left known]
    · have missing : written[place]? = none := List.getElem?_eq_none (Nat.le_of_not_lt known)
      rw [List.getElem?_append_right (Nat.le_of_not_lt known), List.getElem?_replicate, missing]
      split <;> rfl
  rw [field, splitRecord, firstItems, if_neg (by omega), map_strip_fields, Int.toNat_natCast, filled]
  rw [List.getD_eq_getElem?_getD, List.getElem?_map, List.getD_eq_getElem?_getD]
  cases (List.splitOn CodePoint.verticalBar part)[place]? <;> rfl

/-- A field is the one of the record, or what stands in for it. -/
theorem field_completed {fallbacks : List Text} {place : Nat} (inside : place < fallbacks.length)
    (part : Text) : field (completed fallbacks part) place =
      orElse (field (splitRecord fallbacks.length (Text.strip part)) place) (fallbacks.getD place []) := by
  have given : fallbacks.getD place [] = fallbacks[place] := by
    rw [List.getD_eq_getElem?_getD, List.getElem?_eq_getElem inside]
    rfl
  rw [field_splitRecord inside, given, field, completed, List.getD_eq_getElem?_getD, List.getElem?_mapIdx,
    List.getElem?_eq_getElem inside]
  rfl

/-- A value is split where its text is. -/
theorem splitList_shown {value : Value} {text : Text} (shown : value.shown [] = .ok text) :
    splitList value [CodePoint.semicolon] = .ok ((parts text).map Text.strip) := by
  rw [splitList, shown]
  dsimp only [bind, Except.bind]
  cases text with
  | nil => rfl
  | cons first rest =>
    rw [List.isEmpty_cons, if_neg Bool.false_ne_true, List.isEmpty_cons, if_neg Bool.false_ne_true,
      parts, if_neg (List.cons_ne_nil first rest), Text.splitOn_point]
    rfl

/-- The records of a value are the parts of its text. -/
theorem splitRecords_eq_ok_iff {value : Value} {fields : Int} {records : List (List Text)} :
    splitRecords value fields = .ok records ↔ ∃ text, value.shown [] = .ok text ∧
      records = (parts text).map fun part => splitRecord fields (Text.strip part) := by
  have read : ∀ text, value.shown [] = .ok text → splitRecords value fields =
      .ok ((parts text).map fun part => splitRecord fields (Text.strip part)) := by
    intro text shown
    rw [splitRecords, splitList_shown shown]
    show Except.ok _ = Except.ok _
    rw [List.map_map]
    rfl
  cases shown : value.shown [] with
  | error problem =>
    rw [splitRecords, splitList, shown]
    constructor
    · intro same
      cases same
    · rintro ⟨text, same, _⟩
      cases same
  | ok text =>
    rw [read text shown, Except.ok.injEq]
    constructor
    · rintro rfl
      exact ⟨text, rfl, rfl⟩
    · rintro ⟨other, same, rfl⟩
      rw [Except.ok.inj same]

/-! ### The format -/

/-- Records as one text, with bars between fields and semicolons between records. -/
def joinRecords (records : List (List Text)) : Text :=
  Text.join [semicolon] (records.map (Text.join [verticalBar]))

/-- A text that a field can be. -/
structure IsFieldText (text : Text) : Prop where
  noSemicolon : semicolon ∉ text
  noBar : verticalBar ∉ text
  stripped : Text.strip text = text

instance : DecidablePred IsFieldText := fun text =>
  decidable_of_iff (semicolon ∉ text ∧ verticalBar ∉ text ∧ Text.strip text = text)
    ⟨fun ⟨noSemicolon, noBar, stripped⟩ => ⟨noSemicolon, noBar, stripped⟩,
      fun ⟨noSemicolon, noBar, stripped⟩ => ⟨noSemicolon, noBar, stripped⟩⟩

/-- Every record has the given number of fields. -/
def AreRecords (fields : Nat) (records : List (List Text)) : Prop :=
  ∀ record ∈ records, record.length = fields ∧ ∀ field ∈ record, IsFieldText field

instance (fields : Nat) : DecidablePred (AreRecords fields) := fun records =>
  inferInstanceAs (Decidable (∀ record ∈ records, record.length = fields ∧ ∀ field ∈ record, IsFieldText field))

/-! ### Reading what is written -/

/-- A text is shown as it is. -/
theorem shown_text (text : Text) : (Value.text text).shown [] = .ok text := by
  cases text <;> rfl

section Written

variable {fields : Nat} {records : List (List Text)} (isRecords : AreRecords fields records)
include isRecords

/-- Written records are the parts of their text. -/
theorem splitOn_joinRecords (nonempty : records ≠ []) :
    List.splitOn semicolon (joinRecords records) = records.map (Text.join [verticalBar]) := by
  refine List.splitOn_intercalate semicolon (List.forall_mem_map.mpr fun record listed inside => ?_)
    (List.map_eq_nil_iff.not.mpr nonempty)
  rcases mem_of_mem_intercalate inside with between | ⟨field, member, inner⟩
  · exact absurd between (by decide)
  · exact ((isRecords record listed).2 field member).noSemicolon inner

/-- A written record is cut into its fields. -/
theorem splitOn_join {record : List Text} (listed : record ∈ records) (several : 2 ≤ fields) :
    List.splitOn verticalBar (Text.join [verticalBar] record) = record := by
  obtain ⟨size, texts⟩ := isRecords record listed
  exact List.splitOn_intercalate verticalBar (fun field inside => (texts field inside).noBar)
    (List.ne_nil_of_length_pos (by omega))

/-- Records of two fields or more are never written as the empty text. -/
theorem joinRecords_ne_nil (several : 2 ≤ fields) (nonempty : records ≠ []) : joinRecords records ≠ [] := by
  intro empty
  have split := splitOn_joinRecords isRecords nonempty
  rw [empty, List.splitOn_nil] at split
  obtain ⟨record, rfl, alone⟩ := List.map_eq_singleton_iff.mp split.symm
  have single := splitOn_join isRecords (.head _) several
  rw [alone, List.splitOn_nil] at single
  have size := (isRecords record (.head _)).1
  rw [← single, List.length_singleton] at size
  omega

-- One empty field is written as no text at all, so it is not read back.
example : recordsOf (.text (joinRecords [[[]]])) (.integer 1) = .ok [] := rfl

/-- The parts of a written text are the written records. -/
theorem parts_joinRecords (several : 2 ≤ fields) (nonempty : records ≠ []) :
    parts (joinRecords records) = records.map (Text.join [verticalBar]) := by
  rw [parts, if_neg (joinRecords_ne_nil isRecords several nonempty), splitOn_joinRecords isRecords nonempty]

/-- A written record is read back. -/
theorem splitRecord_join {record : List Text} (listed : record ∈ records) (several : 2 ≤ fields) :
    splitRecord fields (Text.strip (Text.join [verticalBar] record)) = record := by
  obtain ⟨size, texts⟩ := isRecords record listed
  have stripped : record.map Text.strip = record :=
    (List.map_congr_left fun field inside => (texts field inside).stripped).trans (List.map_id record)
  rw [splitRecord, firstItems, if_neg (by omega), map_strip_fields, splitOn_join isRecords listed several,
    stripped, ← size, Int.toNat_natCast, Nat.sub_self, List.replicate_zero, List.append_nil,
    List.take_length]

/-- Written records are read back. -/
theorem splitRecords_joinRecords (several : 2 ≤ fields) (nonempty : records ≠ []) :
    splitRecords (.text (joinRecords records)) fields = .ok records := by
  refine splitRecords_eq_ok_iff.mpr ⟨_, shown_text _, ?_⟩
  rw [parts_joinRecords isRecords several nonempty, List.map_map]
  exact ((List.map_congr_left fun record listed => splitRecord_join isRecords listed several).trans
    (List.map_id records)).symm

end Written

/-! ### What any text is read as -/

theorem isFieldText_nil : IsFieldText [] := ⟨List.not_mem_nil, List.not_mem_nil, rfl⟩

/-- Every field of a part is one that can be written. -/
theorem isFieldText_of_mem {text part field : Text} (listed : part ∈ parts text) {fields : Nat}
    (inside : field ∈ splitRecord fields (Text.strip part)) : IsFieldText field := by
  have split : part ∈ List.splitOn semicolon text := by
    unfold parts at listed
    split at listed
    · cases listed
    · exact listed
  rw [splitRecord, firstItems, if_neg (by omega), map_strip_fields] at inside
  rcases List.mem_append.mp (List.mem_of_mem_take inside) with written | missing
  · obtain ⟨piece, member, rfl⟩ := List.mem_map.mp written
    have inner := Text.of_mem_splitOn member
    have outer := Text.of_mem_splitOn split
    refine ⟨fun point => ?_, fun point => ?_, Text.strip_strip piece⟩
    · exact (outer semicolon (inner semicolon (Text.mem_of_mem_strip point)).1).2 rfl
    · exact (inner verticalBar (Text.mem_of_mem_strip point)).2 rfl
  · rw [List.eq_of_mem_replicate missing]
    exact isFieldText_nil

/-- What is read are records, one for each part. -/
theorem areRecords_of_splitRecords {text : Text} {fields : Nat} {records : List (List Text)}
    (read : splitRecords (.text text) fields = .ok records) :
    AreRecords fields records ∧ records.length = (parts text).length := by
  obtain ⟨_, shown, rfl⟩ := splitRecords_eq_ok_iff.mp read
  rw [shown_text, Except.ok.injEq] at shown
  subst shown
  refine ⟨List.forall_mem_map.mpr fun part listed => ?_, List.length_map _⟩
  exact ⟨length_splitRecord fields _, fun field inside => isFieldText_of_mem listed inside⟩

/-! ### Numbers of fields -/

/-- As many fields as are lacking can be made. -/
def HasRoom (lacking : Int) : Prop :=
  Number.Integer.isWord lacking = true ∧ lacking ≤ Value.longestRepetition

/-- So many fields can be made if there is room for them. -/
theorem exists_repetitionOf_iff {lacking : Int} :
    (∃ count, Value.repetitionOf lacking = .ok count) ↔ HasRoom lacking := by
  unfold Value.repetitionOf HasRoom
  split
  · rename_i foreign
    refine iff_of_false (not_exists_error _) fun room => ?_
    rw [room.1] at foreign
    cases foreign
  split
  · rename_i large
    exact iff_of_false (not_exists_error _) fun room => absurd large (Int.not_lt.mpr room.2)
  · rename_i word small
    exact iff_of_true ⟨_, rfl⟩ ⟨by simpa using word, Int.not_lt.mp small⟩

/-- A record is read if there is room for the fields that it lacks. -/
theorem recordOf_eq_ok_iff {fields : Nat} {written : Text} {record : List Text} :
    recordOf (.integer fields) written = .ok record ↔
      HasRoom (fields - (1 + written.count verticalBar : Nat)) ∧ splitRecord fields written = record := by
  rw [← exists_repetitionOf_iff, ← Text.length_splitOn, ← Text.splitOn_point]
  show (Value.repetitionOf _).map _ = _ ↔ _
  cases Value.repetitionOf (fields - (Text.splitOn [verticalBar] written).length) with
  | error problem => exact iff_of_false (fun same => nomatch same) fun ⟨room, _⟩ => not_exists_error _ room
  | ok count =>
    show Except.ok _ = Except.ok _ ↔ _
    rw [Except.ok.injEq]
    exact (and_iff_right ⟨count, rfl⟩).symm

/-- The records of a text, if there is room for the fields that they lack. -/
theorem recordsOf_eq_ok_iff {text : Text} {fields : Nat} {records : List (List Text)} :
    recordsOf (.text text) (.integer fields) = .ok records ↔
      (∀ part ∈ parts text, HasRoom (fields - (1 + part.count verticalBar : Nat))) ∧
        splitRecords (.text text) fields = .ok records := by
  have read : recordsOf (.text text) (.integer fields) =
      ((parts text).map Text.strip).mapM (recordOf (.integer fields)) := by
    rw [recordsOf, splitList_shown (shown_text text)]
    rfl
  have split : splitRecords (.text text) fields =
      .ok (((parts text).map Text.strip).map (splitRecord fields)) := by
    rw [splitRecords, splitList_shown (shown_text text)]
    rfl
  rw [read, split, mapM_eq_ok_iff_map (fun _ _ => recordOf_eq_ok_iff), List.forall_mem_map, Except.ok.injEq]
  simp only [Text.count_strip (show Text.isBlank verticalBar = false by decide)]

/-! ### The records of a text -/

/-- **Records are decoded exactly.** Records of two fields or more are read back from their written form.
What is read of any text has the number of fields that is asked for, in each record, and nothing in a field
that could not be written; there is a record for each part between semicolons, and none for the empty text.
Records are refused only for want of room, where one of them lacks more fields than can be made. -/
theorem recordsOf_exact (fields : Nat) :
    (2 ≤ fields → ∀ records, records ≠ [] → AreRecords fields records →
      recordsOf (.text (joinRecords records)) (.integer fields) = .ok records) ∧
    ∀ text,
      (∀ records, recordsOf (.text text) (.integer fields) = .ok records →
        AreRecords fields records ∧
          records.length = if text = [] then 0 else 1 + text.count semicolon) ∧
      ((∃ records, recordsOf (.text text) (.integer fields) = .ok records) ↔
        ∀ part ∈ parts text, HasRoom (fields - (1 + part.count verticalBar : Nat))) := by
  refine ⟨fun several records nonempty isRecords => ?_, fun text => ⟨fun records read => ?_, ?_⟩⟩
  · refine recordsOf_eq_ok_iff.mpr ⟨?_, splitRecords_joinRecords isRecords several nonempty⟩
    rw [parts_joinRecords isRecords several nonempty, List.forall_mem_map]
    intro record listed
    rw [← Text.length_splitOn, splitOn_join isRecords listed several, (isRecords record listed).1,
      Int.sub_self]
    exact ⟨by decide, by decide⟩
  · obtain ⟨isRecords, size⟩ := areRecords_of_splitRecords (recordsOf_eq_ok_iff.mp read).2
    exact ⟨isRecords, size.trans (length_parts text)⟩
  · simp only [recordsOf_eq_ok_iff, exists_and_left]
    exact and_iff_left ⟨_, splitRecords_eq_ok_iff.mpr ⟨text, shown_text text, rfl⟩⟩

/-- Records with empty fields at their ends. -/
def gappedRecords : List (List Text) := [["", "a b", ""], ["", "", ""], ["c", "", ""]]

theorem recordsOf_exact_gapped :
    AreRecords 3 gappedRecords ∧ joinRecords gappedRecords = "|a b|;||;c||" ∧
      recordsOf (.text "|a b|;||;c||") (.integer 3) = .ok gappedRecords ∧
      gappedRecords.length = 1 + (Text.ofString "|a b|;||;c||").count semicolon := by
  have isRecords : AreRecords 3 gappedRecords := by decide +kernel
  have written : joinRecords gappedRecords = "|a b|;||;c||" := by decide +kernel
  obtain ⟨back, texts⟩ := recordsOf_exact 3
  have read := back (by decide) gappedRecords (by decide) isRecords
  rw [written] at read
  exact ⟨isRecords, written, read, ((texts _).1 _ read).2.trans (if_neg (by decide))⟩

end BlockPage.Library
