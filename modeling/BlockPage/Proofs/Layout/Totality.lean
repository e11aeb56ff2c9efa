/-
**Compiling answers for every source.**

Whatever the source is, it is compiled to blocks or has faults: all its lexical ones, or its first
syntactic one. The blocks pass the checks of a block. Only a limit can be refused: one that is exceeded
has to be shown, and an integer of more than 4300 digits cannot be.

* `isPlain_of_run`: the blocks of every declaration that has been read, also before a fault.
* `Compiles`, `compiles_compile`: the blocks or the faults of a source.
* `Scan.Covers`, `covers_scan`: scanning goes through the source once.
* `compileSource_integer`, `compileSource_exceeded`: limits.
* `compileSource_total`: all of it.
-/

import BlockPage.Proofs.Intake.MadeBlocks
import BlockPage.Proofs.Layout.Places
import BlockPage.Proofs.Layout.Progress

namespace BlockPage

open Number

namespace Layout

/-! ### Declarations that are read -/

/-- **Every block of a state that was reached can be written**: the invariant of the reader. -/
theorem isPlain_of_reached {read : List Lexeme} {reading : Reading} (reached : Reached read reading)
    (writable : ∀ lexeme ∈ read, lexeme.Writable) : ∀ block ∈ reading.blocks, IsPlain block := by
  have plain : ∀ {done : List Lexeme} {blocks : List Block}, IsDeclarations done blocks.reverse →
      (∀ lexeme ∈ done, lexeme.Writable) → ∀ block ∈ blocks, IsPlain block :=
    fun declarations writable block inside =>
      declarations.isPlain writable block (List.mem_reverse.mpr inside)
  cases reached with
  | declaration declarations => exact plain declarations writable
  | body declarations | entry declarations | bound declarations | colon declarations
  | value declarations | nothing declarations =>
    exact plain declarations (List.forall_mem_append.mp writable).1

/-- Every token of a source has a written form, also where other parts of the source have faults. -/
theorem writable_of_scan (source : Text) : ∀ token ∈ (scan source).tokens, token.lexeme.Writable := by
  intro token inside
  obtain ⟨lexemes, faults, pieces⟩ := exists_pieces source
  rw [scan, scan_of_pieces pieces .start] at inside
  obtain ⟨found, listed, rfl⟩ := List.mem_map.mp inside
  obtain ⟨written, following, others, -, piece⟩ := pieces.reads found listed
  show found.item.Writable
  generalize found.item = lexeme at piece
  cases piece with
  | segment isSegment => exact writable_of_isSegment isSegment
  | string _ _ => trivial

/-- The blocks of all declarations that have been read of a source. -/
theorem isPlain_of_run {source : Text} {front read rest : List Token}
    (tokens : (scan source).tokens = front ++ (read ++ rest)) {wrapper : Option Position}
    {reading : Reading} (ran : run (.start wrapper) read = .ok reading) :
    ∀ block ∈ reading.blocks, IsPlain block := by
  have reached := Reached.run read (.declaration .nil) ran
  refine isPlain_of_reached reached fun lexeme inside => ?_
  rw [List.nil_append] at inside
  obtain ⟨token, listed, rfl⟩ := List.mem_map.mp inside
  refine writable_of_scan source token ?_
  rw [tokens]
  exact List.mem_append_right _ (List.mem_append_left _ listed)

/-! ### Sources -/

/-- A source has all its lexical faults, or its first syntactic one, or the blocks that it means. -/
inductive Compiles (source : Text) : Compilation → Prop
  | lexical : (scan source).errors ≠ [] → Compiles source (.error (scan source).errors)
  | syntactic {error : SourceError} : (scan source).errors = [] →
      IsFirstFault (scan source).tokens error → Compiles source (.error [error])
  | blocks {blocks : List Block} : (scan source).errors = [] →
      IsDocument ((scan source).tokens.map Token.lexeme) blocks → Compiles source (.ok blocks)

/-- Compiling without a limit comes to all lexical faults, to the first syntactic one, or to the blocks. -/
theorem compiles_compile (source : Text) : Compiles source (compile source none) := by
  cases compiled : compile source none with
  | ok blocks =>
    obtain ⟨clean, read⟩ := compileScan_eq_ok_iff.mp compiled
    exact .blocks clean (document_of_readTokens read)
  | error errors =>
    rcases compileScan_eq_error_iff.mp compiled with ⟨faulty, rfl⟩ | ⟨clean, error, read, rfl⟩
    · exact .lexical faulty
    · exact .syntactic clean (firstFault_of_readTokens read)

/-- Scanning goes through a source once, names only places in it, and without faults gives only integers
that can be shown. -/
structure Scan.Covers (scanned : Scan) (source : Text) : Prop where
  finish : scanned.finish = Position.start.past source
  tokens : ∀ token ∈ scanned.tokens, IsPlace .start source token.position
  errors : ∀ error ∈ scanned.errors, error.IsWithin .start source
  integers : scanned.errors = [] → ∀ token ∈ scanned.tokens, ∀ value,
    token.lexeme = .integer value → ∃ shown, Integer.text? value = some shown

/-- A scan ends where the source does, and its tokens and errors stand inside. -/
theorem covers_scan (source : Text) : (scan source).Covers source := by
  obtain ⟨finish, tokens, errors⟩ := scanFrom_stays (remains_start .start source)
  refine ⟨finish, tokens, errors, fun _ token inside value same => ?_⟩
  have writable := writable_of_scan source token inside
  rw [same] at writable
  have short : Integer.exceedsLimit value = false :=
    Bool.not_eq_true _ ▸ fun long => writable ((exceedsLimit_iff value).mp long)
  exact ⟨Integer.text value, by rw [Integer.text?, short, if_neg (by decide)]⟩

end Layout

namespace Intake

open Layout

/-! ### Limits -/

/-- An integer has a text unless it has too many digits. -/
theorem displayed_integer (value : Int) : Value.displayed (.integer value) =
    match Integer.text? value with
    | some shown => .ok shown
    | none => .error Value.tooLongToWrite := by
  have display : (Value.integer value).display = Integer.text? value := by
    simp only [Value.integer, Value.display, Value.inspect, Value.inspectScalar]
  cases shown : Integer.text? value <;> simp only [Value.displayed, display, shown]

/-- A limit that is an integer is compared with the length and shown when it is exceeded. -/
theorem compileSource_integer (source : Text) (most : Int) :
    compileSource (.text source) (.integer most) =
      if most < source.length then
        (Value.displayed (.integer most)).map fun shown =>
          .error [⟨.tooLong source.length shown, none⟩]
      else .ok (compile source none) := by
  show (if decide (most < source.length) = true then _ else _) = _
  by_cases long : most < source.length
  · rw [if_pos long, if_pos (decide_eq_true long)]
    cases Value.displayed (.integer most) <;> rfl
  · rw [if_neg long, if_neg (by simpa using long)]
    rfl

/-- **A limit that is exceeded is reported, unless it is itself too long to be shown.** -/
theorem compileSource_exceeded {source : Text} {most : Int} (long : most < source.length) :
    compileSource (.text source) (.integer most) =
      if 4300 < (decimal most.natAbs).length then .error Value.tooLongToWrite
      else .ok (.error [⟨.tooLong source.length (Integer.text most), none⟩]) := by
  rw [compileSource_integer, if_pos long]
  have limit := exceedsLimit_iff most
  rw [show Integer.digitLimit = 4300 from rfl] at limit
  rw [displayed_integer, Integer.text?]
  by_cases unshown : Integer.exceedsLimit most = true
  · rw [if_pos unshown, if_pos (limit.mp unshown)]
    rfl
  · rw [if_neg unshown, if_neg (limit.not.mp unshown)]
    rfl

/-- **Compiling answers for every source.** Without a limit, or with one that is not exceeded, a source
is compiled to blocks or has faults, and never both. Its blocks pass their checks, as do those of all
declarations that are read before a fault. A limit that is exceeded is the only fault, and has no
position; but an integer of more than 4300 digits cannot be shown, and is refused instead. Scanning
goes through the source once, segment by segment. -/
theorem compileSource_total (source : Text) :
    (∃ result, Compiles source result ∧ (result.errors = [] ∨ result.blocks = []) ∧
      (∀ block ∈ result.blocks, IsValid block) ∧
      compileSource (.text source) .absent = .ok result ∧
      ∀ most : Int, source.length ≤ most → compileSource (.text source) (.integer most) = .ok result) ∧
    (∀ most : Int, most < source.length → compileSource (.text source) (.integer most) =
      if 4300 < (decimal most.natAbs).length then .error Value.tooLongToWrite
      else .ok (.error [⟨.tooLong source.length (Integer.text most), none⟩])) ∧
    (scan source).Covers source ∧
    (∀ position first rest, ∃ taken, taken ≠ [] ∧
      first :: rest = taken ++ (segment position first rest).rest ∧
      (segment position first rest).position = position.past taken) ∧
    ∀ (front read rest : List Token) (wrapper : Option Position) (reading : Reading),
      (scan source).errors = [] → (scan source).tokens = front ++ (read ++ rest) →
        run (.start wrapper) read = .ok reading → ∀ block ∈ reading.blocks, IsValid block := by
  refine ⟨⟨compile source none, compiles_compile source, ?_, ?_, rfl, ?_⟩,
    fun most => compileSource_exceeded, covers_scan source, exists_taken_segment, ?_⟩
  · cases compile source none with
    | ok blocks => exact .inl rfl
    | error errors => exact .inr rfl
  · cases compiled : compile source none with
    | ok blocks => exact fun block inside => isValid_of_isPlain (isPlain_of_compile compiled block inside)
    | error errors => exact fun _ inside => nomatch inside
  · intro most short
    rw [compileSource_integer, if_neg (Int.not_lt.mpr short)]
  · intro front read rest wrapper reading _ tokens ran block inside
    exact isValid_of_isPlain (isPlain_of_run tokens ran block inside)

/-- A source that ends inside a body. -/
def openSource : Text := "a(b:"

theorem compileSource_total_open :
    (∃ result, Compiles openSource result ∧ (result.errors = [] ∨ result.blocks = []) ∧
      compileSource (.text openSource) .absent = .ok result ∧
      compileSource (.text openSource) (.integer 4) = .ok result) ∧
    compileSource (.text openSource) (.integer (-1)) =
      .ok (.error [⟨.tooLong 4 (Integer.text (-1)), none⟩]) := by
  obtain ⟨⟨result, compiles, exclusive, _, absent, within⟩, exceeded, _⟩ :=
    compileSource_total openSource
  exact ⟨⟨result, compiles, exclusive, absent, within 4 (by decide)⟩,
    (exceeded (-1) (by decide)).trans (if_neg (by decide))⟩

/-- A limit of 5001 digits. -/
def hugeLimit : Int := -(Nat.pow 10 5000 : Nat)

/-- The limit cannot be shown, so not even the empty source is answered. -/
theorem compileSource_hugeLimit :
    ¬ ∃ result, compileSource (.text []) (.integer hugeLimit) = .ok result := by
  have refused : compileSource (.text []) (.integer hugeLimit) = .error Value.tooLongToWrite := by
    decide +kernel
  rintro ⟨result, passed⟩
  rw [refused] at passed
  cases passed

end Intake

end BlockPage
