import Mathlib.Data.List.Basic

/-!
# Comma-separated values

The encodings of a table that RFC 4180 allows, over any alphabet with four marks.

* `Cell`, `Row`, `File`: what a text may be for a cell, a row and a table.
* `Row.head_ne_lf`, `File.head_ne_lf`: a row with something in it begins with no line feed, so a
  carriage return in front of it ends a line alone.
* `File.mem`: the text has every unit of every cell.
-/

namespace Csv

variable {α : Type}

/-- The marks of the format. -/
structure Marks (α : Type) where
  quote : α
  comma : α
  cr : α
  lf : α
  distinct : [quote, comma, cr, lf].Nodup

/-- The unit needs no quotes. -/
def Marks.Bare (m : Marks α) (c : α) : Prop := c ≠ m.quote ∧ c ≠ m.comma ∧ c ≠ m.cr ∧ c ≠ m.lf

/-- The text of a cell between quotes: every quote stands twice. -/
def Marks.doubled [DecidableEq α] (m : Marks α) (cell : List α) : List α :=
  cell.flatMap fun c => if c = m.quote then [m.quote, m.quote] else [c]

theorem Marks.comma_ne_lf {m : Marks α} : m.comma ≠ m.lf := by
  have := m.distinct
  simp_all

theorem Marks.quote_ne_lf {m : Marks α} : m.quote ≠ m.lf := by
  have := m.distinct
  simp_all

variable [DecidableEq α] (m : Marks α)

/-- `Cell m cell text`: the text encodes the cell. -/
inductive Cell : List α → List α → Prop
  | bare {cell : List α} (h : ∀ c ∈ cell, m.Bare c) : Cell cell cell
  | quoted (cell : List α) : Cell cell (m.quote :: (m.doubled cell ++ [m.quote]))

/-- `Row m row text`: the text encodes the row, without a line end. -/
inductive Row : List (List α) → List α → Prop
  | last {cell text : List α} (h : Cell m cell text) : Row [cell] text
  | cons {cell text rest : List α} {row : List (List α)} (h : Cell m cell text) (hrow : Row row rest) :
      Row (cell :: row) (text ++ m.comma :: rest)

/-- The three line ends. -/
inductive LineEnd : List α → Prop
  | lf : LineEnd [m.lf]
  | cr : LineEnd [m.cr]
  | crlf : LineEnd [m.cr, m.lf]

/-- `File m rows text`: the text encodes the rows; the last line end may be left out. -/
inductive File : List (List (List α)) → List α → Prop
  | nil : File [] []
  | last {row : List (List α)} {text : List α} (h : Row m row text) : File [row] text
  | cons {row : List (List α)} {rows : List (List (List α))} {text lineEnd rest : List α} (h : Row m row text)
      (hend : LineEnd m lineEnd) (hrest : File rows rest) : File (row :: rows) (text ++ (lineEnd ++ rest))

variable {m} {cell text : List α} {row : List (List α)} {rows : List (List (List α))}

/-- A cell with something in it begins with no line feed, and neither does its text. -/
theorem Cell.head_ne_lf (h : Cell m cell text) : text.head? ≠ some m.lf ∧ (cell ≠ [] → text ≠ []) := by
  cases h with
  | bare hbare => exact ⟨fun hhead => (hbare _ (List.mem_of_head? hhead)).2.2.2 rfl, id⟩
  | quoted => exact ⟨fun hhead => Marks.quote_ne_lf (Option.some.inj hhead), fun _ => by simp⟩

theorem Row.head_ne_lf (h : Row m row text) (hne : ∃ c ∈ row, c ≠ []) :
    text.head? ≠ some m.lf ∧ text ≠ [] := by
  cases h with
  | last hcell =>
    obtain ⟨c, hc, hne⟩ := hne
    rw [List.mem_singleton.1 hc] at hne
    exact ⟨hcell.head_ne_lf.1, hcell.head_ne_lf.2 hne⟩
  | @cons cell text rest row hcell hrow =>
    refine ⟨?_, by simp⟩
    cases text with
    | nil => simpa using Marks.comma_ne_lf
    | cons c t => exact hcell.head_ne_lf.1

/-- The text of rows with something in them begins with no line feed. -/
theorem File.head_ne_lf (h : File m rows text) (hne : ∀ row ∈ rows, ∃ c ∈ row, c ≠ []) :
    text.head? ≠ some m.lf := by
  cases h with
  | nil => simp
  | last hrow => exact (hrow.head_ne_lf (hne _ List.mem_cons_self)).1
  | @cons row rows text lineEnd rest hrow _ _ =>
    obtain ⟨hhead, htext⟩ := hrow.head_ne_lf (hne _ List.mem_cons_self)
    cases text with
    | nil => exact absurd rfl htext
    | cons c t => exact hhead

/-- A row has a cell. -/
theorem File.head_ne_nil (h : File m (row :: rows) text) : row ≠ [] := by
  have hrow : ∀ {text : List α}, Row m row text → row ≠ [] := by
    intro text h
    cases h with
    | last _ => exact List.cons_ne_nil _ _
    | cons _ _ => exact List.cons_ne_nil _ _
  cases h with
  | last h => exact hrow h
  | cons h _ _ => exact hrow h

/-! ### Units -/

theorem Cell.mem (h : Cell m cell text) {c : α} (hc : c ∈ cell) : c ∈ text := by
  cases h with
  | bare _ => exact hc
  | quoted =>
    refine List.mem_cons_of_mem _ (List.mem_append_left _ (List.mem_flatMap.2 ⟨c, hc, ?_⟩))
    by_cases hquote : c = m.quote
    · rw [if_pos hquote, hquote]; exact List.mem_cons_self
    · rw [if_neg hquote]; exact List.mem_cons_self

theorem Row.mem (h : Row m row text) (hcell : cell ∈ row) {c : α} (hc : c ∈ cell) : c ∈ text := by
  induction h with
  | last h => exact h.mem (List.mem_singleton.1 hcell ▸ hc)
  | cons h _ ih =>
    rcases List.mem_cons.1 hcell with rfl | hcell
    · exact List.mem_append_left _ (h.mem hc)
    · exact List.mem_append_right _ (List.mem_cons_of_mem _ (ih hcell))

/-- The text has every unit of every cell. -/
theorem File.mem (h : File m rows text) (hrow : row ∈ rows) (hcell : cell ∈ row) {c : α} (hc : c ∈ cell) :
    c ∈ text := by
  induction h with
  | nil => cases hrow
  | last h => exact h.mem (List.mem_singleton.1 hrow ▸ hcell) hc
  | cons h _ _ ih =>
    rcases List.mem_cons.1 hrow with rfl | hrow
    · exact List.mem_append_left _ (h.mem hcell hc)
    · exact List.mem_append_right _ (List.mem_append_right _ (ih hrow))

end Csv
