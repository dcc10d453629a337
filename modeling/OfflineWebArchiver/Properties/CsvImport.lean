import OfflineWebArchiver.Lib.Csv
import OfflineWebArchiver.ProxyManager.Import
import OfflineWebArchiver.ProxyManager.Sample

/-!
# What the CSV parser reads

The state machine of `parseCsv` on the encodings of a table.

* `scanCsv_cell`, `scanCsv_row`: the scan of a cell and of a row, with any text behind it.
* `scanCsv_file`: the scan of a file leaves the rows of the table.
* `parseCsv_file`: the records of an encoded table.
-/

namespace OfflineWebArchiver.ProxyManager

open Csv

/-- The marks of a CSV text. -/
def csvMarks : Marks CodeUnit := ⟨unit '"', unit ',', unit '\r', unit '\n', by decide⟩

variable {cell text rest field : Text} {row : List Text} {rows : List (List Text)} {next : Option CodeUnit}

/-- The state inside a cell, outside quotes. -/
def atCell (rows : List (List Text)) (row : List Text) (field : Text) : CsvState := ⟨rows, row, field, false, false⟩

/-- The state between quotes. -/
def inQuotes (rows : List (List Text)) (row : List Text) (field : Text) : CsvState := ⟨rows, row, field, true, false⟩

/-! ### Single units -/

theorem read_inQuotes {c : CodeUnit} : (inQuotes rows row field).read c next
    = if c = unit '"' ∧ next = some (unit '"') then { inQuotes rows row (field ++ [unit '"']) with skip := true }
      else if c = unit '"' then atCell rows row field
      else inQuotes rows row (field ++ [c]) := rfl

theorem read_atCell {c : CodeUnit} : (atCell rows row field).read c next
    = if c = unit '"' ∧ field = [] then inQuotes rows row field
      else if c = unit ',' then atCell rows (row ++ [field]) []
      else if c = unit '\n' ∨ c = unit '\r' then
        { atCell (atCell rows row field).endRow [] [] with skip := c = unit '\r' ∧ next = some (unit '\n') }
      else atCell rows row (field ++ [c]) := rfl

theorem read_bare {c : CodeUnit} (h : csvMarks.Bare c) :
    (atCell rows row field).read c next = atCell rows row (field ++ [c]) := by
  obtain ⟨hquote, hcomma, hcr, hlf⟩ : c ≠ unit '"' ∧ c ≠ unit ',' ∧ c ≠ unit '\r' ∧ c ≠ unit '\n' := h
  rw [read_atCell, if_neg fun h => hquote h.1, if_neg hcomma, if_neg fun h => h.elim hlf hcr]

theorem comma_ne_quote : (csvMarks.comma :: text).head? ≠ some (unit '"') :=
  fun h => absurd (Option.some.inj h) (by decide)

theorem read_comma : (atCell rows row field).read (unit ',') next = atCell rows (row ++ [field]) [] := by
  rw [read_atCell, if_neg fun h => absurd h.1 (by decide), if_pos rfl]

theorem read_inside {c : CodeUnit} (h : c ≠ unit '"') :
    (inQuotes rows row field).read c next = inQuotes rows row (field ++ [c]) := by
  rw [read_inQuotes, if_neg fun hc => h hc.1, if_neg h]

/-- The first of two quotes is text, and the second is skipped. -/
theorem read_doubled : ((inQuotes rows row field).read (unit '"') (some (unit '"'))).read (unit '"') next
    = inQuotes rows row (field ++ [unit '"']) := by
  rw [read_inQuotes, if_pos ⟨rfl, rfl⟩, CsvState.read, if_pos rfl]
  rfl

theorem read_closing (h : next ≠ some (unit '"')) :
    (inQuotes rows row field).read (unit '"') next = atCell rows row field := by
  rw [read_inQuotes, if_neg fun hc => h hc.2, if_pos rfl]

/-! ### Cells -/

theorem scanCsv_bare (hbare : ∀ c ∈ cell, csvMarks.Bare c) :
    scanCsv (cell ++ rest) (atCell rows row field) = scanCsv rest (atCell rows row (field ++ cell)) := by
  induction cell generalizing field with
  | nil => rw [List.nil_append, List.append_nil]
  | cons c cell ih =>
    rw [List.cons_append, scanCsv, read_bare (hbare c List.mem_cons_self),
      ih fun c hc => hbare c (List.mem_cons_of_mem _ hc), List.append_assoc, List.singleton_append]

/-- Between quotes a doubled quote is one quote, and the quote alone ends the cell. -/
theorem scanCsv_doubled (hrest : rest.head? ≠ some (unit '"')) :
    scanCsv (csvMarks.doubled cell ++ unit '"' :: rest) (inQuotes rows row field)
      = scanCsv rest (atCell rows row (field ++ cell)) := by
  induction cell generalizing field with
  | nil => rw [Marks.doubled, List.flatMap_nil, List.nil_append, scanCsv, read_closing hrest, List.append_nil]
  | cons c cell ih =>
    have hcons : csvMarks.doubled (c :: cell)
        = (if c = unit '"' then [unit '"', unit '"'] else [c]) ++ csvMarks.doubled cell := List.flatMap_cons
    by_cases hc : c = unit '"'
    · rw [hcons, if_pos hc, hc, List.append_assoc, List.cons_append, List.cons_append, List.nil_append, scanCsv,
        scanCsv, List.head?_cons, read_doubled, ih, List.append_assoc, List.singleton_append]
    · rw [hcons, if_neg hc, List.append_assoc, List.cons_append, List.nil_append, scanCsv, read_inside hc, ih,
        List.append_assoc, List.singleton_append]

theorem scanCsv_cell (h : Cell csvMarks cell text) (hrest : rest.head? ≠ some (unit '"')) :
    scanCsv (text ++ rest) (atCell rows row []) = scanCsv rest (atCell rows row cell) := by
  cases h with
  | bare hbare => exact scanCsv_bare hbare
  | quoted =>
    rw [List.cons_append, scanCsv, show csvMarks.quote = unit '"' from rfl, read_atCell, if_pos ⟨rfl, rfl⟩,
      List.append_assoc, List.singleton_append, scanCsv_doubled hrest, List.nil_append]

/-! ### Rows -/

theorem scanCsv_row (rows : List (List Text)) (before : List Text) (h : Row csvMarks row text) (hrest : rest.head? ≠ some (unit '"')) :
    ∃ init last, row = init ++ [last] ∧
      scanCsv (text ++ rest) (atCell rows before []) = scanCsv rest (atCell rows (before ++ init) last) := by
  induction h generalizing before with
  | @last cell text hcell => exact ⟨[], cell, rfl, by rw [scanCsv_cell hcell hrest, List.append_nil]⟩
  | @cons cell text tail row hcell _ ih =>
    obtain ⟨init, last, hrow, hscan⟩ := ih (before ++ [cell])
    refine ⟨cell :: init, last, by rw [hrow, List.cons_append], ?_⟩
    rw [List.append_assoc, List.cons_append, scanCsv_cell hcell comma_ne_quote, show csvMarks.comma = unit ',' from rfl,
      scanCsv, read_comma, hscan, List.append_assoc, List.singleton_append]

/-- A row with something in it is pushed. -/
theorem endRow_atCell {init : List Text} {last : Text} (hne : ∃ c ∈ init ++ [last], c ≠ []) :
    (atCell rows init last).endRow = rows ++ [init ++ [last]] := by
  refine if_pos (List.any_eq_true.2 ?_)
  obtain ⟨c, hc, hne⟩ := hne
  exact ⟨c, hc, decide_eq_true hne⟩

theorem scanCsv_lineEnd {lineEnd : Text} {init : List Text} {last : Text} (h : LineEnd csvMarks lineEnd)
    (hne : ∃ c ∈ init ++ [last], c ≠ []) (hrest : rest.head? ≠ some (unit '\n')) :
    scanCsv (lineEnd ++ rest) (atCell rows init last) = scanCsv rest (atCell (rows ++ [init ++ [last]]) [] []) := by
  have hread : ∀ c next, c = unit '\n' ∨ c = unit '\r' → (atCell rows init last).read c next
      = ⟨rows ++ [init ++ [last]], [], [], false, c = unit '\r' ∧ next = some (unit '\n')⟩ := by
    intro c next hc
    have hquote : c ≠ unit '"' := by rcases hc with rfl | rfl <;> decide
    have hcomma : c ≠ unit ',' := by rcases hc with rfl | rfl <;> decide
    rw [read_atCell, if_neg fun h => hquote h.1, if_neg hcomma, if_pos hc, endRow_atCell hne]
    rfl
  cases h with
  | lf =>
    show scanCsv (unit '\n' :: rest) _ = _
    rw [scanCsv, hread _ _ (.inl rfl), decide_eq_false fun h => absurd h.1 (by decide)]
    rfl
  | cr =>
    show scanCsv (unit '\r' :: rest) _ = _
    rw [scanCsv, hread _ _ (.inr rfl), decide_eq_false fun h => hrest h.2]
    rfl
  | crlf =>
    -- the line feed behind the carriage return is skipped
    show scanCsv (unit '\r' :: unit '\n' :: rest) _ = _
    rw [scanCsv, hread _ _ (.inr rfl), decide_eq_true ⟨rfl, rfl⟩, scanCsv]
    rfl

/-! ### Tables -/

/-- The rows when the text has ended. -/
def CsvState.close (s : CsvState) : List (List Text) := if s.field ≠ [] ∨ s.row ≠ [] then s.endRow else s.rows

/-- **The scan of an encoded table** ends outside quotes and leaves its rows. -/
theorem scanCsv_file (rows : List (List Text)) {table : List (List Text)} (h : File csvMarks table text) (hne : ∀ row ∈ table, ∃ c ∈ row, c ≠ []) :
    (scanCsv text (atCell rows [] [])).quoted = false ∧
      (scanCsv text (atCell rows [] [])).close = rows ++ table := by
  induction h generalizing rows with
  | nil => exact ⟨rfl, (List.append_nil _).symm⟩
  | @last row text hrow =>
    have hempty : ([] : Text).head? ≠ some (unit '"') := fun h => (nomatch h)
    obtain ⟨init, last, hlast, hscan⟩ := scanCsv_row rows [] hrow hempty
    have hend := hne row List.mem_cons_self
    rw [hlast] at hend
    rw [List.append_nil, List.nil_append, scanCsv] at hscan
    have hopen : last ≠ [] ∨ init ≠ [] := by
      obtain ⟨c, hc, hcne⟩ := hend
      rcases List.mem_append.1 hc with hc | hc
      · exact .inr (List.ne_nil_of_mem hc)
      · exact .inl (List.mem_singleton.1 hc ▸ hcne)
    rw [hscan]
    refine ⟨rfl, ?_⟩
    exact (if_pos hopen).trans (by rw [endRow_atCell hend, hlast])
  | @cons row table text lineEnd rest hrow hline hfile ih =>
    have hend := hne row List.mem_cons_self
    have hrest := hfile.head_ne_lf fun row hmem => hne row (List.mem_cons_of_mem _ hmem)
    have hquote : (lineEnd ++ rest).head? ≠ some (unit '"') := by
      cases hline <;> exact fun h => absurd (Option.some.inj h) (by decide)
    obtain ⟨init, last, hlast, hscan⟩ := scanCsv_row rows [] hrow hquote
    rw [hlast] at hend
    rw [hscan, List.nil_append, scanCsv_lineEnd hline hend hrest, ← hlast]
    obtain ⟨hquoted, hclose⟩ := ih (rows ++ [row]) fun row hmem => hne row (List.mem_cons_of_mem _ hmem)
    exact ⟨hquoted, by rw [hclose, List.append_assoc, List.cons_append, List.nil_append]⟩

/-- The fields that `parseCsv` coerces. -/
def coercedFields : List Text :=
  ["bypass", "port", "weight", "priority", "maxConcurrency", "enabled"].map asciiUnits

variable (env : ProxyEnv)

theorem coerceCell_text {header : Text} (h : header ∉ coercedFields) : coerceCell env header cell = .text cell := by
  have hbypass : header ≠ asciiUnits "bypass" := fun hh => h (hh ▸ List.mem_cons_self)
  have hnumeric : header ∉ ["port", "weight", "priority", "maxConcurrency"].map asciiUnits := by
    intro hmem
    refine h (List.mem_cons_of_mem _ ?_)
    exact List.mem_append_left (List.map asciiUnits ["enabled"]) hmem
  have henabled : header ≠ asciiUnits "enabled" := by
    intro hh
    exact h (hh ▸ List.mem_map_of_mem (by simp))
  rw [coerceCell, if_neg hbypass, if_neg fun h => hnumeric h.1, if_neg fun h => henabled h.1]

/-- The names of the fields have no spaces around them. -/
theorem safeImportFields_trim {header : Text} (h : header ∈ safeImportFields) :
    trimUnits header = header ∧ header ≠ [] := by
  have hall : (safeImportFields.all fun header => trimUnits header == header && header != []) = true := by decide
  simpa using List.all_eq_true.1 hall header h

section Table

variable {headers : List Text} {table : List (List Text)} (hallowed : ∀ header ∈ headers, header ∈ safeImportFields)
  (hdistinct : headers.Nodup) (hwidth : ∀ row ∈ table, row.length = headers.length)
  (hne : ∀ row ∈ table, ∃ cell ∈ row, cell ≠ []) (hfile : File csvMarks (headers :: table) text)

include hallowed hdistinct hwidth hne hfile

/-- The records of an encoded table. -/
theorem parseCsv_table : parseCsv env text
    = .ok (table.map fun row => (headers.zip row).map fun (header, cell) => (header, coerceCell env header cell)) := by
  have hnil : headers ≠ [] := hfile.head_ne_nil
  have hall : ∀ row ∈ headers :: table, ∃ cell ∈ row, cell ≠ [] := by
    refine List.forall_mem_cons.2 ⟨?_, hne⟩
    obtain ⟨header, hheader⟩ := List.exists_mem_of_ne_nil headers hnil
    exact ⟨header, hheader, (safeImportFields_trim (hallowed header hheader)).2⟩
  obtain ⟨hquoted, hclose⟩ := scanCsv_file [] hfile hall
  have htrim : headers.map trimUnits = headers := by
    refine (List.map_congr_left fun header h => ?_).trans (List.map_id headers)
    exact (safeImportFields_trim (hallowed header h)).1
  have hheader : ¬(headers = [] ∨ (∃ header ∈ headers, header ∉ safeImportFields ∨ header = []) ∨ ¬headers.Nodup) := by
    rintro (h | ⟨header, hmem, h | h⟩ | h)
    · exact hnil h
    · exact h (hallowed header hmem)
    · exact (safeImportFields_trim (hallowed header hmem)).2 h
    · exact h hdistinct
  have hrows : table.mapM (csvRecord env headers)
      = .ok (table.map fun row => (headers.zip row).map fun (header, cell) => (header, coerceCell env header cell)) := by
    rw [Checks.mapM_ok, List.forall₂_map_right_iff, List.forall₂_same]
    intro row hrow
    exact if_neg (not_not.2 (hwidth row hrow))
  change (scanCsv text {}).quoted = false at hquoted
  change (if (scanCsv text {}).field ≠ [] ∨ (scanCsv text {}).row ≠ [] then (scanCsv text {}).endRow
    else (scanCsv text {}).rows) = headers :: table at hclose
  unfold parseCsv
  dsimp only
  rw [hquoted, hclose, Checks.failIf_bind, if_neg Bool.false_ne_true]
  show (Checks.failIf _ _ >>= fun _ => _) = _
  rw [htrim, Checks.failIf_bind, if_neg hheader]
  exact hrows

/-- **`parseCsv` decodes every encoding of a table**: one record for each data row, which gives each
header its cell, and the cells outside the coerced fields as they are. -/
theorem parseCsv_file : parseCsv env text
      = .ok (table.map fun row => (headers.zip row).map fun (header, cell) => (header, coerceCell env header cell)) ∧
    ∀ header cell, header ∉ coercedFields → coerceCell env header cell = .text cell :=
  ⟨parseCsv_table env hallowed hdistinct hwidth hne hfile, fun _ _ h => coerceCell_text env h⟩

end Table

/-- Cells without and with quotes, one with a comma, a quote and a line feed, and an empty cell at the end. -/
theorem quotedTable_records : parseCsv Sample.env (asciiUnits "id,\"host\"\r\n\"a,\"\"b\n\",\n")
    = .ok [[(asciiUnits "id", .text (asciiUnits "a,\"b\n")), (asciiUnits "host", .text [])]] := by
  have hid : ∀ c ∈ asciiUnits "id", csvMarks.Bare c := by
    have hall : ((asciiUnits "id").all fun c => [unit '"', unit ',', unit '\r', unit '\n'].all (c != ·)) = true := by
      decide
    intro c hc
    simpa [Marks.Bare, csvMarks] using List.all_eq_true.1 hall c hc
  have hheader : Row csvMarks [asciiUnits "id", asciiUnits "host"] (asciiUnits "id,\"host\"") :=
    .cons (.bare hid) (.last (.quoted _))
  have hrow : Row csvMarks [asciiUnits "a,\"b\n", []] (asciiUnits "\"a,\"\"b\n\",") :=
    .cons (.quoted _) (.last (.bare (List.forall_mem_nil _)))
  have hfile : File csvMarks ([asciiUnits "id", asciiUnits "host"] :: [[asciiUnits "a,\"b\n", []]])
      (asciiUnits "id,\"host\"\r\n\"a,\"\"b\n\",\n") :=
    .cons hheader .crlf (.cons hrow .lf .nil)
  refine (parseCsv_file Sample.env ?_ (by decide) ?_ ?_ hfile).1.trans rfl
  · have hall : ([asciiUnits "id", asciiUnits "host"].all safeImportFields.contains) = true := by decide
    intro header hmem
    simpa using List.all_eq_true.1 hall header hmem
  · simp
  · intro row hmem
    rw [List.mem_singleton.1 hmem]
    exact ⟨_, List.mem_cons_self, by decide⟩

end OfflineWebArchiver.ProxyManager
