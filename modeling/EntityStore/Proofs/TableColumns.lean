import Mathlib.Data.List.Forall2
import Mathlib.Data.List.TakeWhile
import Mathlib.Order.Bounds.Basic
import EntityStore.Proofs.TimestampText
import EntityStore.Report.TextTable

/-!
# Reading tables by position

A table whose texts hold no blank but the space is read back from its text by position
(`TextTable.text?_reads_back`): the lines of the text are the headings, the dashes, one
line for each row, an empty line and the number of rows, and a line that is filled up
with spaces to the common length has every cell at the offset of its column.

A line is first laid out in full and then trimmed.  What is trimmed off are spaces only,
so that filling the line up gives the full one back (`Text.trimEnd_append_replicate`).  In
the full line every piece has the width of its column, so that the pieces before a
column and the bars between them end where the column begins (`drop_intercalate`).

No text at all is made of a table with a column beyond the width that a cell can be
filled up to.
-/

set_option autoImplicit false

namespace EntityStore

namespace Text

/-- A trimmed text is filled up again with as many spaces as it has lost, if it had no other
blanks. -/
theorem trimEnd_append_replicate {text : List Char}
    (plain : ∀ character ∈ text, isBlank character → character = ' ') :
    trimEnd text ++ List.replicate (text.length - (trimEnd text).length) ' ' = text := by
  let lost := text.reverse.takeWhile isBlank
  have parts : trimEnd text ++ lost.reverse = text := by
    rw [trimEnd, ← List.reverse_append, List.takeWhile_append_dropWhile, List.reverse_reverse]
  have spaces : lost.reverse = List.replicate lost.length ' ' := by
    refine List.eq_replicate_iff.mpr ⟨List.length_reverse, ?_⟩
    intro character member
    have taken : character ∈ text.reverse.takeWhile isBlank := List.mem_reverse.mp member
    exact plain character (List.mem_reverse.mp ((List.takeWhile_prefix _).subset taken))
      (List.mem_takeWhile_imp taken)
  have count : text.length - (trimEnd text).length = lost.length := by
    have lengths := congrArg List.length parts
    rw [List.length_append, List.length_reverse] at lengths
    omega
  rw [count, ← spaces, parts]

end Text

namespace TextTable

/-! ## Pieces set apart by a separator -/

section Pieces

variable {α : Type}

/-- Where a piece begins when pieces of these lengths are set apart by gaps. -/
def offsetOf (gap : Nat) (lengths : List Nat) (place : Nat) : Nat :=
  ((lengths.take place).map fun length => length + gap).sum

theorem drop_intercalate {separator : List α} {pieces : List (List α)} {place : Nat}
    (inside : place < pieces.length) :
    (separator.intercalate pieces).drop
        (offsetOf separator.length (pieces.map List.length) place) =
      separator.intercalate (pieces.drop place) := by
  induction pieces generalizing place with
  | nil => cases inside
  | cons piece pieces ih =>
      cases place with
      | zero => rfl
      | succ place =>
          have further : place < pieces.length := Nat.lt_of_succ_lt_succ inside
          have some_ : pieces ≠ [] := List.ne_nil_of_length_pos (Nat.zero_lt_of_lt further)
          rw [List.intercalate_cons_of_ne_nil some_, List.drop_succ_cons, ← ih further]
          have split : offsetOf separator.length ((piece :: pieces).map List.length) (place + 1) =
              (piece ++ separator).length +
                offsetOf separator.length (pieces.map List.length) place := by
            simp [offsetOf]
          rw [split, ← List.drop_drop, List.drop_left]

theorem take_intercalate_cons (separator first : List α) (others : List (List α)) :
    (separator.intercalate (first :: others)).take first.length = first := by
  cases others with
  | nil => rw [List.intercalate_singleton, List.take_length]
  | cons second others =>
      rw [List.intercalate_cons_cons, List.append_assoc, List.take_left]

theorem take_drop_intercalate_cons (separator first second : List α) (others : List (List α)) :
    ((separator.intercalate (first :: second :: others)).drop first.length).take
      separator.length = separator := by
  rw [List.intercalate_cons_cons, List.append_assoc, List.drop_left, List.take_left]

theorem length_intercalate (separator : List α) (pieces : List (List α)) :
    (separator.intercalate pieces).length =
      (pieces.map List.length).sum + separator.length * (pieces.length - 1) := by
  induction pieces with
  | nil => simp
  | cons piece pieces ih =>
      cases pieces with
      | nil => simp
      | cons next pieces =>
          rw [List.intercalate_cons_cons, List.length_append, List.length_append, ih]
          simp only [List.map_cons, List.sum_cons, List.length_cons, Nat.add_sub_cancel,
            Nat.mul_succ]
          omega

theorem mem_intercalate {separator : List α} {pieces : List (List α)} {element : α}
    (member : element ∈ separator.intercalate pieces) :
    element ∈ separator ∨ ∃ piece ∈ pieces, element ∈ piece := by
  induction pieces with
  | nil => cases member
  | cons piece pieces ih =>
      cases pieces with
      | nil => exact .inr ⟨piece, List.mem_cons_self, by simpa using member⟩
      | cons next pieces =>
          rw [List.intercalate_cons_cons, List.append_assoc, List.mem_append,
            List.mem_append] at member
          rcases member with here | between | behind
          · exact .inr ⟨piece, List.mem_cons_self, here⟩
          · exact .inl between
          · rcases ih behind with between | ⟨later, member, inside⟩
            · exact .inl between
            · exact .inr ⟨later, List.mem_cons_of_mem _ member, inside⟩

/-- Lines that each end with a separator are joined by it, with whatever comes behind them. -/
theorem flatMap_append_intercalate (separator : List α) (lines : List (List α))
    {others : List (List α)} (some_ : others ≠ []) :
    (lines.flatMap fun line => line ++ separator) ++ separator.intercalate others =
      separator.intercalate (lines ++ others) := by
  induction lines with
  | nil => rfl
  | cons line lines ih =>
      rw [List.flatMap_cons, List.append_assoc, ih, List.cons_append,
        List.intercalate_cons_of_ne_nil (List.append_ne_nil_of_right_ne_nil lines some_)]

end Pieces

/-! ## Widths -/

variable {table : TextTable} {cells : List String} {column : Nat}

theorem width_isGreatest (table : TextTable) (column : Nat) :
    IsGreatest {length | ∃ cells ∈ table.headings :: table.rows,
      (cells.getD column "").length = length} (table.width column) := by
  let lengths := (table.headings :: table.rows).map fun cells => (cells.getD column "").length
  obtain ⟨widest, found⟩ : ∃ widest, lengths.max? = some widest :=
    Option.isSome_iff_exists.mp (List.isSome_max?_of_mem List.mem_cons_self)
  have greatest : table.width column = widest := by
    rw [width, ← List.foldl_map, List.foldl_max, found]
    exact Nat.zero_max widest
  obtain ⟨member, bound⟩ := List.max?_eq_some_iff.mp found
  rw [greatest]
  constructor
  · exact List.mem_map.mp member
  · rintro length ⟨cells, cellsMember, rfl⟩
    exact bound _ (List.mem_map_of_mem cellsMember)

theorem length_le_width (member : cells ∈ table.headings :: table.rows) (column : Nat) :
    (cells.getD column "").length ≤ table.width column :=
  (table.width_isGreatest column).2 ⟨cells, member, rfl⟩

theorem length_padded {width : Nat} {cell : String} (fits : cell.length ≤ width) :
    (padded width cell).length = width := by
  rw [padded, List.length_append, List.length_replicate, String.length_toList]
  omega

theorem paddedCells_eq_mapIdx (widths : List Nat) (cells : List String) :
    paddedCells widths cells =
      widths.mapIdx fun column width => padded width (cells.getD column "") := by
  induction widths generalizing cells with
  | nil => rfl
  | cons width widths ih => cases cells <;> simp [paddedCells, ih]

theorem paddedCells_widths (table : TextTable) (cells : List String) :
    paddedCells table.widths cells = (List.range table.headings.length).map fun column =>
      padded (table.width column) (cells.getD column "") := by
  rw [paddedCells_eq_mapIdx]
  refine List.ext_getElem (by simp [widths]) ?_
  intro column _ _
  simp [widths]

/-! ## Lines -/

/-- The length of a line with all cells filled up. -/
def lineLength (table : TextTable) : Nat :=
  table.widths.sum + 3 * (table.widths.length - 1)

/-- A line filled up with spaces on the right. -/
def filled (table : TextTable) (line : List Char) : List Char :=
  line ++ List.replicate (table.lineLength - line.length) ' '

/-- Where a column begins. -/
def offset (table : TextTable) (column : Nat) : Nat := offsetOf 3 table.widths column

/-- What a line has in a column. -/
def cut (table : TextTable) (line : List Char) (column : Nat) : List Char :=
  (line.drop (table.offset column)).take (table.width column)

/-- What a line has between a column and the next one. -/
def cutBehind (table : TextTable) (line : List Char) (column : Nat) : List Char :=
  (line.drop (table.offset column + table.width column)).take 3

/-- Whether a line has given texts in all columns, and a separator between them. -/
structure IsCutInto (table : TextTable) (separator : List Char) (piece : Nat → List Char)
    (line : List Char) : Prop where
  length_eq : line.length = table.lineLength
  cell : ∀ column < table.headings.length, table.cut line column = piece column
  gap : ∀ column, column + 1 < table.headings.length → table.cutBehind line column = separator

theorem isCutInto_intercalate {separator : List Char} {piece : Nat → List Char}
    (three : separator.length = 3)
    (fits : ∀ column < table.headings.length, (piece column).length = table.width column) :
    table.IsCutInto separator piece
      (separator.intercalate ((List.range table.headings.length).map piece)) := by
  let pieces := (List.range table.headings.length).map piece
  have count : pieces.length = table.headings.length := by simp [pieces]
  have lengths : pieces.map List.length = table.widths := by
    rw [widths, List.map_map]
    exact List.map_congr_left fun column member => fits column (List.mem_range.mp member)
  -- From the offset of a column on, the line is joined of the pieces from that column on.
  have fromColumn (column : Nat) (inside : column < table.headings.length) :
      (separator.intercalate pieces).drop (table.offset column) =
        separator.intercalate (piece column :: pieces.drop (column + 1)) := by
    have atColumn : pieces.drop column = piece column :: pieces.drop (column + 1) := by
      rw [List.drop_eq_getElem_cons (count ▸ inside)]
      simp [pieces]
    rw [offset, ← lengths, ← three, drop_intercalate (count ▸ inside), atColumn]
  constructor
  · rw [lineLength, ← lengths, List.length_map, ← three]
    exact length_intercalate separator pieces
  · intro column inside
    rw [cut, fromColumn column inside, ← fits column inside, take_intercalate_cons]
  · intro column inside
    have next : pieces.drop (column + 1) = piece (column + 1) :: pieces.drop (column + 2) := by
      rw [List.drop_eq_getElem_cons (count ▸ inside)]
      simp [pieces]
    have before : column < table.headings.length := Nat.lt_of_succ_lt inside
    rw [cutBehind, ← List.drop_drop, fromColumn column before, ← fits column before, next, ← three,
      take_drop_intercalate_cons]

/-- Whether a line shows cells: filled up, it has each of them in its column, filled up itself.
Missing cells are empty there, and surplus ones have no column. -/
def Shows (table : TextTable) (cells : List String) (line : List Char) : Prop :=
  table.IsCutInto [' ', '|', ' ']
    (fun column => padded (table.width column) (cells.getD column "")) (table.filled line)

/-- Whether the texts of a table have no blanks but spaces. -/
def Plain (table : TextTable) : Prop :=
  ∀ cells ∈ table.headings :: table.rows, ∀ cell ∈ cells, ∀ character ∈ cell.toList,
    Text.isBlank character → character = ' '

/-- Whether a table is plain is found by going through its characters. -/
instance (table : TextTable) : Decidable table.Plain :=
  decidable_of_iff ((table.headings :: table.rows).all (fun cells => cells.all fun cell =>
      cell.toList.all fun character => !Text.isBlank character || character == ' ') = true) (by
    simp only [Plain, List.all_eq_true, Bool.or_eq_true, Bool.not_eq_true', beq_iff_eq,
      ← Bool.not_eq_true, imp_iff_not_or])

theorem plain_of_mem_line (plain : table.Plain) (member : cells ∈ table.headings :: table.rows) :
    ∀ character ∈ List.intercalate [' ', '|', ' '] (paddedCells table.widths cells),
      Text.isBlank character → character = ' ' := by
  intro character inLine blank
  rw [paddedCells_widths] at inLine
  rcases mem_intercalate inLine with between | ⟨piece, isPiece, inPiece⟩
  · have noBar : character ≠ '|' := by
      rintro rfl
      exact absurd blank (by decide)
    simpa [noBar] using between
  · obtain ⟨column, -, rfl⟩ := List.mem_map.mp isPiece
    rw [padded, List.mem_append, List.getD_eq_getElem?_getD] at inPiece
    rcases inPiece with inCell | filling
    · cases atColumn : cells[column]? with
      | none => simp [atColumn] at inCell
      | some cell =>
          rw [atColumn, Option.getD_some] at inCell
          exact plain cells member cell (List.mem_of_getElem? atColumn) character inCell blank
    · exact List.eq_of_mem_replicate filling

theorem shows_line (plain : table.Plain) (member : cells ∈ table.headings :: table.rows) :
    table.Shows cells (line table.widths cells) := by
  have isCut : table.IsCutInto [' ', '|', ' ']
      (fun column => padded (table.width column) (cells.getD column ""))
      (List.intercalate [' ', '|', ' '] (paddedCells table.widths cells)) := by
    rw [paddedCells_widths]
    exact isCutInto_intercalate rfl fun column _ => length_padded (length_le_width member column)
  have refilled : table.filled (line table.widths cells) =
      List.intercalate [' ', '|', ' '] (paddedCells table.widths cells) := by
    rw [filled, ← isCut.length_eq]
    exact Text.trimEnd_append_replicate (plain_of_mem_line plain member)
  rw [Shows, refilled]
  exact isCut

theorem isCutInto_rule (table : TextTable) :
    table.IsCutInto ['-', '+', '-'] (fun column => List.replicate (table.width column) '-')
      (rule table.widths) := by
  rw [rule, widths, List.map_map]
  exact isCutInto_intercalate rfl fun column _ => List.length_replicate

/-! ## The text -/

/-- The last line of the text, which gives the number of rows. -/
def countLine (table : TextTable) : List Char := (s!"{table.rows.length} row(s)").toList

theorem text?_eq_some_iff (headed : table.headings ≠ []) {text : String} :
    table.text? = some text ↔
      (∀ column < table.headings.length, table.width column ≤ widestColumn) ∧
        text.toList = ['\n'].intercalate (table.lines ++ [[], table.countLine, []]) := by
  have nonempty : ¬table.headings.isEmpty = true := by simpa using headed
  have narrow : (∀ column < table.headings.length, table.width column ≤ widestColumn) ↔
      ¬(table.widths.any fun width => widestColumn < width) = true := by
    simp [widths]
  have written : (String.ofList (table.lines.flatMap fun line => line ++ ['\n']) ++
      s!"\n{table.rows.length} row(s)\n").toList =
        ['\n'].intercalate (table.lines ++ [[], table.countLine, []]) := by
    rw [← flatMap_append_intercalate _ _ (List.cons_ne_nil _ _)]
    have ends : (toString " row(s)\n").toList = (toString " row(s)").toList ++ ['\n'] := rfl
    have begins : (toString "\n").toList = ['\n'] := rfl
    simp [countLine, List.intercalate_cons_cons, ends, begins]
  rw [text?, if_neg nonempty, narrow, ← written, String.toList_inj]
  by_cases tooWide : (table.widths.any fun width => widestColumn < width) = true
  · rw [if_pos tooWide]
    exact iff_of_false nofun fun found => found.1 tooWide
  · rw [if_neg tooWide, Option.some.injEq, eq_comm]
    exact (and_iff_right tooWide).symm

theorem newline_notMem_countLine (table : TextTable) : '\n' ∉ table.countLine := by
  intro member
  rw [countLine, String.toList_append, List.mem_append] at member
  rcases member with inNumber | behind
  · rw [Nat.toString_eq_ofList_toDigits, String.toList_ofList] at inNumber
    exact absurd (Nat.isDigit_of_mem_toDigits (by decide) (by decide) inNumber) (by decide)
  · exact absurd behind (by decide)

theorem newline_notMem_lines (plain : table.Plain) :
    ∀ line ∈ table.lines ++ [[], table.countLine, []], '\n' ∉ line := by
  have noNewline {cells : List String} (member : cells ∈ table.headings :: table.rows) :
      '\n' ∉ line table.widths cells := by
    intro inLine
    have inFull := (List.dropWhile_suffix _).subset (List.mem_reverse.mp inLine)
    exact absurd (plain_of_mem_line plain member '\n' (List.mem_reverse.mp inFull) (by decide))
      (by decide)
  have noDash : '\n' ∉ rule table.widths := by
    intro inRule
    rcases mem_intercalate inRule with between | ⟨piece, isPiece, inPiece⟩
    · exact absurd between (by decide)
    · obtain ⟨width, -, rfl⟩ := List.mem_map.mp isPiece
      exact absurd (List.eq_of_mem_replicate inPiece) (by decide)
  intro line member
  simp only [lines, List.cons_append, List.mem_cons, List.mem_append, List.mem_map,
    List.not_mem_nil, or_false] at member
  rcases member with rfl | rfl | ⟨cells, isRow, rfl⟩ | rfl | rfl | rfl
  · exact noNewline List.mem_cons_self
  · exact noDash
  · exact noNewline (List.mem_cons_of_mem _ isRow)
  · exact List.not_mem_nil
  · exact table.newline_notMem_countLine
  · exact List.not_mem_nil

/-- Whether a table is read back from a text: its lines show the headings, the dashes under them and
the rows, and behind an empty one comes the number of rows. -/
def ReadsBack (table : TextTable) (text : String) : Prop :=
  ∃ heading dashes rows,
    text.toList.splitOn '\n' = heading :: dashes :: rows ++ [[], table.countLine, []] ∧
    table.Shows table.headings heading ∧
    table.IsCutInto ['-', '+', '-'] (fun column => List.replicate (table.width column) '-')
      dashes ∧
    List.Forall₂ table.Shows table.rows rows

theorem readsBack_of_text? (headed : table.headings ≠ []) (plain : table.Plain) {text : String}
    (found : table.text? = some text) : table.ReadsBack text := by
  obtain ⟨-, joined⟩ := (text?_eq_some_iff headed).mp found
  have split : text.toList.splitOn '\n' = table.lines ++ [[], table.countLine, []] := by
    rw [joined]
    exact List.splitOn_intercalate _ (newline_notMem_lines plain) (by simp)
  have rowsShown : List.Forall₂ table.Shows table.rows (table.rows.map (line table.widths)) := by
    refine List.forall₂_map_right_iff.mpr (List.forall₂_same.mpr ?_)
    intro cells isRow
    exact shows_line plain (List.mem_cons_of_mem _ isRow)
  exact ⟨_, _, _, split, shows_line plain List.mem_cons_self, isCutInto_rule table, rowsShown⟩

/-- **A table is read back from its text by position.**  A column is as wide as the longest cell in
it.  A table has a text unless a column is too wide to be filled up. -/
theorem text?_reads_back (table : TextTable) (headed : table.headings ≠ [])
    (plain : table.Plain) :
    (∀ column, IsGreatest {length | ∃ cells ∈ table.headings :: table.rows,
      (cells.getD column "").length = length} (table.width column)) ∧
    (table.text?.isSome ↔
      ∀ column < table.headings.length, table.width column ≤ widestColumn) ∧
    ∀ text, table.text? = some text → table.ReadsBack text := by
  refine ⟨table.width_isGreatest, ?_, fun text found => readsBack_of_text? headed plain found⟩
  rw [Option.isSome_iff_exists]
  constructor
  · rintro ⟨text, found⟩
    exact ((text?_eq_some_iff headed).mp found).1
  · intro narrow
    exact ⟨_, (text?_eq_some_iff headed).mpr ⟨narrow, String.toList_ofList⟩⟩

/-- Amounts of goods: a row that ends too early, and one that goes on too long and has a bar and
spaces in its cells. -/
def stock : TextTable where
  headings := ["Name", "Amount"]
  rows := [["bolts", "12"], ["nuts"], ["a | b", "3  ", "left over"]]

theorem stock_reads_back :
    stock.headings ≠ [] ∧ stock.Plain ∧
      ∃ text, stock.text? = some text ∧ stock.ReadsBack text := by
  have headed : stock.headings ≠ [] := List.cons_ne_nil _ _
  have plain : stock.Plain := by decide
  obtain ⟨-, isSome_iff, readsBack⟩ := stock.text?_reads_back headed plain
  obtain ⟨text, found⟩ := Option.isSome_iff_exists.mp (isSome_iff.mpr (by decide))
  exact ⟨headed, plain, text, found, readsBack text found⟩

/-- A table with a cell that is one character too wide. -/
def wide : TextTable where
  headings := ["Name"]
  rows := [[String.ofList (List.replicate (widestColumn + 1) 'a')]]

/-- Not every table of plain texts has a text. -/
theorem wide_not_laid_out : wide.headings ≠ [] ∧ wide.Plain ∧ wide.text? = none := by
  have headed : wide.headings ≠ [] := List.cons_ne_nil _ _
  refine ⟨headed, ?_, ?_⟩
  · intro cells member cell inRow character inCell blank
    simp only [wide, List.mem_cons, List.not_mem_nil, or_false] at member
    rcases member with rfl | rfl
    · obtain rfl := List.mem_singleton.mp inRow
      have noBlank : "Name".toList.all (fun character => !Text.isBlank character) = true := by
        decide
      simpa [blank] using List.all_eq_true.mp noBlank character inCell
    · obtain rfl := List.mem_singleton.mp inRow
      rw [String.toList_ofList] at inCell
      obtain rfl := List.eq_of_mem_replicate inCell
      exact absurd blank (by decide)
  · refine Option.eq_none_iff_forall_ne_some.mpr fun text found => ?_
    have narrow := ((text?_eq_some_iff headed).mp found).1 0 Nat.zero_lt_one
    have longest : widestColumn + 1 ≤ wide.width 0 := by
      have isRow : wide.rows.head (List.cons_ne_nil _ _) ∈ wide.headings :: wide.rows :=
        List.mem_cons_of_mem _ (List.head_mem _)
      simpa [wide] using length_le_width isRow 0
    omega

end TextTable

end EntityStore
