import DumpDigest.Report.Table
import Mathlib.Algebra.BigOperators.Group.List.Basic
import Mathlib.Algebra.GroupWithZero.Nat
import Mathlib.Algebra.Order.Group.Nat
import Mathlib.Data.List.Forall2
import Mathlib.Order.Bounds.Basic

/-!
# How tables look

`Table.rendered` says what the text of a table is: a title and, below it, lines that are drawn the
same way, rules and lines of cells by turns.  A line is `Drawn` as one part for every column, with
something at its ends and between the parts; the parts of a rule are bars, those of a line of cells
show the cells in full with blanks around them.

All parts of a column have the same length, whatever they show (`Shows.length_eq`), and this is all
that the length of a line depends on, `Drawn.length_eq`.
-/

namespace DumpDigest.Table

/-! ### Longest lines and widest cells -/

theorem isGreatest_foldl_max {ρ : Type} (items : List ρ) (measure : ρ → Nat)
    (nonempty : items ≠ []) :
    IsGreatest {n | ∃ item ∈ items, measure item = n} ((items.map measure).foldl max 0) := by
  obtain ⟨first, others, rfl⟩ := List.exists_cons_of_ne_nil nonempty
  -- a maximum that starts from the first number is one that starts from zero
  have greatest : ((first :: others).map measure).max? =
      some (((first :: others).map measure).foldl max 0) := by
    rw [List.map_cons, List.max?_cons', List.foldl_cons, Nat.zero_max]
  obtain ⟨member, most⟩ := List.max?_eq_some_iff.mp greatest
  refine ⟨List.mem_map.mp member, ?_⟩
  rintro n ⟨item, there, rfl⟩
  exact most _ (List.mem_map_of_mem there)

theorem isGreatest_columns (table : Table) :
    IsGreatest {n | ∃ row ∈ table.headings :: table.rows, row.length = n} table.columns :=
  isGreatest_foldl_max (table.headings :: table.rows) List.length (List.cons_ne_nil _ _)

theorem isGreatest_width (table : Table) {column : Nat} (there : column < table.columns) :
    IsGreatest {n | ∃ row ∈ table.headings :: table.rows, ∃ cell, row[column]? = some cell ∧
      cell.length = n} (table.width column) := by
  obtain ⟨row, member, longest⟩ := (isGreatest_columns table).1
  have cell : row[column]? = some row[column] := List.getElem?_eq_getElem (longest ▸ there)
  have nonempty : (table.headings :: table.rows).filterMap (·[column]?) ≠ [] :=
    List.ne_nil_of_mem (List.mem_filterMap.mpr ⟨row, member, cell⟩)
  have greatest := isGreatest_foldl_max _ String.length nonempty
  rw [List.foldl_map] at greatest
  refine (Eq.to_iff (congrArg₂ IsGreatest (Set.ext fun n => ?_) rfl)).mp greatest
  simp only [List.mem_filterMap, Set.mem_ofPred_eq]
  exact ⟨fun ⟨cell, ⟨row, member, is⟩, long⟩ => ⟨row, member, cell, is, long⟩,
    fun ⟨row, member, cell, is, long⟩ => ⟨cell, ⟨row, member, is⟩, long⟩⟩

/-! ### Lines -/

/-- A line with one part for every column, with its two ends and what is between the parts. -/
def Drawn (left crossing right : String) (columns : Nat) (shows : Nat → String → Prop)
    (line : String) : Prop :=
  ∃ parts : List String, line = "  " ++ left ++ crossing.intercalate parts ++ right ∧
    parts.length = columns ∧ ∀ column part, parts[column]? = some part → shows column part

/-- A bar of some length. -/
def IsBar (length : Nat) (part : String) : Prop :=
  part.length = length ∧ ∀ c ∈ part.toList, c = '━'

/-- How a cell is shown in a column of some width: with one blank on either side, and at the left
of the first column and at the right of any other one. -/
inductive Shows (cell : String) (width : Nat) : (column : Nat) → (part : String) → Prop
  | left {blanks : String} (blank : ∀ c ∈ blanks.toList, c = ' ')
      (fills : cell.length + blanks.length = width) :
      Shows cell width 0 (" " ++ (cell ++ blanks) ++ " ")
  | right {column : Nat} {blanks : String} (blank : ∀ c ∈ blanks.toList, c = ' ')
      (fills : blanks.length + cell.length = width) :
      Shows cell width (column + 1) (" " ++ (blanks ++ cell) ++ " ")

/-- A line between parts of a table. -/
def IsRule (columns : Nat) (width : Nat → Nat) (left crossing right line : String) : Prop :=
  Drawn left crossing right columns (fun column => IsBar (width column + 2)) line

/-- A line that shows the cells of a row, and nothing where the row has no cell. -/
def ShowsRow (columns : Nat) (width : Nat → Nat) (row : List String) (line : String) : Prop :=
  Drawn "┃" "┃" "┃" columns
    (fun column => Shows (row[column]?.getD "") (width column) column) line

theorem Shows.length_eq {cell part : String} {width column : Nat}
    (h : Shows cell width column part) : part.length = width + 2 := by
  have blank : (" " : String).length = 1 := rfl
  cases h with
  | left _ fills =>
    rw [String.length_append, String.length_append, String.length_append, fills, blank]
    omega
  | right _ fills =>
    rw [String.length_append, String.length_append, String.length_append, fills, blank]
    omega

/-- How long the lines of a table are: a margin, the two ends, the cells with their blanks, and what
is between them. -/
def lineLength (columns : Nat) (width : Nat → Nat) : Nat :=
  4 + ((List.range columns).map (width · + 2)).sum + (columns - 1)

section Lengths

variable {columns : Nat} {width : Nat → Nat}

theorem length_intercalate {crossing : String} (single : crossing.length = 1)
    (parts : List String) :
    (crossing.intercalate parts).length =
      (parts.map String.length).sum + (parts.length - 1) := by
  induction parts with
  | nil => rfl
  | cons part parts ih =>
    cases parts with
    | nil => simp
    | cons next parts =>
      rw [String.intercalate_cons_cons, String.length_append, String.length_append, ih, single,
        List.map_cons (l := next :: parts), List.sum_cons]
      simp only [List.length_cons]
      omega

/-- **The length of a line depends on the widths of the columns only.** -/
theorem Drawn.length_eq {left crossing right line : String} {shows : Nat → String → Prop}
    (h : Drawn left crossing right columns shows line)
    (single : left.length = 1 ∧ crossing.length = 1 ∧ right.length = 1)
    (fits : ∀ column part, shows column part → part.length = width column + 2) :
    line.length = lineLength columns width := by
  obtain ⟨parts, rfl, number, shown⟩ := h
  have lengths : parts.map String.length = (List.range columns).map (width · + 2) := by
    refine List.ext_getElem (by simp [number]) fun column inParts inRange => ?_
    rw [List.getElem_map, List.getElem_map, List.getElem_range]
    exact fits column _ (shown column _ (List.getElem?_eq_getElem _))
  have margin : ("  " : String).length = 2 := rfl
  rw [String.length_append, String.length_append, String.length_append,
    length_intercalate single.2.1, lengths, number, margin, single.1, single.2.2, lineLength]
  omega

theorem IsRule.length_eq {left crossing right line : String}
    (h : IsRule columns width left crossing right line)
    (single : left.length = 1 ∧ crossing.length = 1 ∧ right.length = 1) :
    line.length = lineLength columns width :=
  Drawn.length_eq h single fun _ _ bar => bar.1

theorem ShowsRow.length_eq {row : List String} {line : String}
    (h : ShowsRow columns width row line) :
    line.length = lineLength columns width :=
  Drawn.length_eq h ⟨rfl, rfl, rfl⟩ fun _ _ shown => shown.length_eq

end Lengths

/-! ### The lines of a table -/

theorem widths_eq_some_iff {table : Table} {column width : Nat} :
    table.widths[column]? = some width ↔ column < table.columns ∧ table.width column = width := by
  rw [widths, List.getElem?_map, Option.map_eq_some_iff]
  constructor
  · rintro ⟨found, there, rfl⟩
    obtain ⟨inside, rfl⟩ := List.getElem?_eq_some_iff.mp there
    rw [List.length_range] at inside
    rw [List.getElem_range]
    exact ⟨inside, rfl⟩
  · rintro ⟨inside, rfl⟩
    exact ⟨column, List.getElem?_range inside, rfl⟩

@[simp]
theorem length_widths (table : Table) : table.widths.length = table.columns := by
  rw [widths, List.length_map, List.length_range]

theorem ofList_replicate (times : Nat) (c : Char) :
    (String.ofList (List.replicate times c)).length = times ∧
      ∀ d ∈ (String.ofList (List.replicate times c)).toList, d = c := by
  refine ⟨by rw [String.length_ofList, List.length_replicate], fun d member => ?_⟩
  rw [String.toList_ofList] at member
  exact List.eq_of_mem_replicate member

theorem isRule_rule (table : Table) (left crossing right : String) :
    IsRule table.columns table.width left crossing right
      (rule table.widths left crossing right) := by
  refine ⟨_, rfl, by rw [List.length_map, length_widths], fun column part is => ?_⟩
  rw [List.getElem?_map, Option.map_eq_some_iff] at is
  obtain ⟨width, is, rfl⟩ := is
  obtain ⟨-, rfl⟩ := widths_eq_some_iff.mp is
  exact ofList_replicate _ '━'

/-- **A cell that is not longer than its column is shown in full.** -/
theorem shows_padded {cell : String} {width : Nat} (column : Nat) (fits : cell.length ≤ width) :
    Shows cell width column (padded (column == 0) cell width) := by
  obtain ⟨length, blank⟩ := ofList_replicate (width - cell.length) ' '
  cases column with
  | zero => exact .left blank (by omega)
  | succ column => exact .right blank (by omega)

theorem length_cell_le_width {table : Table} {row : List String} {column : Nat}
    (member : row ∈ table.headings :: table.rows) (there : column < table.columns) :
    (row[column]?.getD "").length ≤ table.width column := by
  cases is : row[column]? with
  | none => exact Nat.zero_le _
  | some cell => exact (isGreatest_width table there).2 ⟨row, member, cell, is, rfl⟩

/-- **A row of a table is shown in full**, with blanks for the cells that it does not have. -/
theorem showsRow_line {table : Table} {row : List String}
    (member : row ∈ table.headings :: table.rows) :
    ShowsRow table.columns table.width row (line table.widths row) := by
  refine ⟨_, rfl, ?_, fun column part is => ?_⟩
  · rw [List.length_map, List.length_zipIdx, length_widths]
  · rw [List.getElem?_map, Option.map_eq_some_iff] at is
    obtain ⟨_, is, rfl⟩ := is
    rw [List.getElem?_zipIdx, Option.map_eq_some_iff] at is
    obtain ⟨width, is, rfl⟩ := is
    obtain ⟨there, rfl⟩ := widths_eq_some_iff.mp is
    rw [Nat.zero_add]
    exact shows_padded column (length_cell_le_width member there)

/-- What the text of a table with so many columns of such widths is: the columns are as many as any
row has cells and as wide as the longest of their cells, and under the title are rules and rows,
all equally long. -/
structure Rendered (table : Table) (columns : Nat) (width : Nat → Nat) : Prop where
  most : IsGreatest {n | ∃ row ∈ table.headings :: table.rows, row.length = n} columns
  longest : ∀ column < columns, IsGreatest {n | ∃ row ∈ table.headings :: table.rows,
    ∃ cell, row[column]? = some cell ∧ cell.length = n} (width column)
  lines : ∃ top headings middle rows bottom,
    table.text = "\n".intercalate
      (("  " ++ table.title) :: top :: headings :: middle :: (rows ++ [bottom])) ∧
    IsRule columns width "┏" "┳" "┓" top ∧ ShowsRow columns width table.headings headings ∧
    IsRule columns width "┣" "╋" "┫" middle ∧
    List.Forall₂ (ShowsRow columns width) table.rows rows ∧
    IsRule columns width "┗" "┻" "┛" bottom ∧
    ∀ line ∈ top :: headings :: middle :: (rows ++ [bottom]), line.length = lineLength columns width

/-- **A table is drawn in lines of one length and shows all of its cells in full.** -/
theorem rendered (table : Table) : Rendered table table.columns table.width := by
  have top := isRule_rule table "┏" "┳" "┓"
  have middle := isRule_rule table "┣" "╋" "┫"
  have bottom := isRule_rule table "┗" "┻" "┛"
  have headings : ShowsRow table.columns table.width table.headings
      (line table.widths table.headings) := showsRow_line List.mem_cons_self
  have rows : ∀ row ∈ table.rows,
      ShowsRow table.columns table.width row (line table.widths row) :=
    fun row member => showsRow_line (List.mem_cons_of_mem _ member)
  refine ⟨isGreatest_columns table, fun column there => isGreatest_width table there,
    _, _, _, table.rows.map (line table.widths), _, rfl, top, headings, middle, ?_, bottom, ?_⟩
  · rw [List.forall₂_map_right_iff, List.forall₂_same]
    exact rows
  · simp only [List.forall_mem_cons, List.forall_mem_append, List.forall_mem_map]
    exact ⟨top.length_eq ⟨rfl, rfl, rfl⟩, headings.length_eq, middle.length_eq ⟨rfl, rfl, rfl⟩,
      fun row member => (rows row member).length_eq, bottom.length_eq ⟨rfl, rfl, rfl⟩, by simp⟩

/-- A row may be short or long. -/
example : (Table.mk "t" ["a", "b"] [["x"], ["y", "10", "z"]]).lines =
    ["  t", "  ┏━━━┳━━━━┳━━━┓", "  ┃ a ┃  b ┃   ┃", "  ┣━━━╋━━━━╋━━━┫", "  ┃ x ┃    ┃   ┃",
      "  ┃ y ┃ 10 ┃ z ┃", "  ┗━━━┻━━━━┻━━━┛"] := by
  decide

end DumpDigest.Table
