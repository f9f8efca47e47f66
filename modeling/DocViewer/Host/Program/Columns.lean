import DocViewer.Host.Program.Basic

/-!
# Names in columns

How names are laid out on lines of limited width (`Layout.arrange`): one on a line, with commas between them, or in as
many columns as fit (`columnCount`), where the names go down the columns or across the lines. A column is two wider than
its longest name, except the last one, and is reached with tabs and spaces.
-/

namespace DocViewer.Host

inductive Layout
  /-- One name on a line. -/
  | single
  /-- With commas between the names. -/
  | commas
  | down
  | across
  deriving DecidableEq

/-- How many columns of the screen a name takes. -/
def shownLength (name : Text) : Nat := (name.filter isPrintableByte).length

/-- Names with commas between them, on lines of a width; `place` is where the line at hand goes on. -/
def withCommas (width place : Nat) : List Text → Text
  | [] => ['\n']
  | [name] => name ++ ['\n']
  | name :: next :: names =>
    let place := place + shownLength name
    if width = 0 || place + shownLength next + 2 < width then
      name ++ ", ".toList ++ withCommas width (place + 2) (next :: names)
    else name ++ ",\n".toList ++ withCommas width 0 (next :: names)

/-! ## Columns -/

/-- The distance of the stops of a tab. -/
def tabStop : Nat := 8

/-- The narrowest column. -/
def columnMinimum : Nat := 3

/-- From one place on a line to another. -/
def indent (start stop : Nat) : Text :=
  if start < stop then
    if (start + 1) / tabStop < stop / tabStop then '\t' :: indent (start / tabStop * tabStop + tabStop) stop
    else ' ' :: indent (start + 1) stop
  else []
termination_by stop - start
decreasing_by
  · have := Nat.div_add_mod start tabStop
    have := Nat.mod_lt start (y := tabStop) (by decide)
    simp only [tabStop] at *
    omega
  · omega

/-- The column of the name with a number, among so many columns. -/
def columnOf (layout : Layout) (names columns number : Nat) : Nat :=
  if layout = .down then number / ((names + columns - 1) / columns) else number % columns

/-- The widths of so many columns. -/
def columnWidths (layout : Layout) (lengths : List Nat) (columns : Nat) : List Nat :=
  let placed := lengths.zipIdx.map fun (length, number) => (columnOf layout lengths.length columns number, length)
  (List.range columns).map fun column =>
    placed.foldl
      (fun width (c, length) => if c = column then max width (length + if c + 1 = columns then 0 else 2) else width)
      columnMinimum

/-- How many columns fit. -/
def columnCount (layout : Layout) (width : Nat) (lengths : List Nat) : Nat :=
  let most := min lengths.length ((width + columnMinimum - 1) / columnMinimum)
  let fits (columns : Nat) : Bool := (columnWidths layout lengths columns).foldl (· + ·) 0 < width
  (((List.range most).map (· + 1)).reverse.find? fits).getD 1

/-- A line of names with the widths of their columns; `place` is where the first one starts. -/
def columnLine (place : Nat) : List (Text × Nat) → Text
  | [] => ['\n']
  | [(name, _)] => name ++ ['\n']
  | (name, width) :: next :: names =>
    name ++ indent (place + shownLength name) (place + width) ++ columnLine (place + width) (next :: names)

/-- Names in columns. -/
def inColumns (layout : Layout) (width : Nat) (names : List Text) : Text :=
  let lengths := names.map shownLength
  let columns := columnCount layout width lengths
  let widths := columnWidths layout lengths columns
  let rows := (names.length + columns - 1) / columns
  (List.range rows).flatMap fun row =>
    let numbers :=
      if layout = .down then (List.range columns).map (row + rows * ·) else (List.range columns).map (columns * row + ·)
    columnLine 0 ((numbers.filterMap (names[·]?)).zip widths)

/-- Names on lines of a width, where zero stands for no limit. -/
def Layout.arrange (layout : Layout) (width : Nat) (names : List Text) : Text :=
  if names.isEmpty then []
  else
    match layout with
    | .single => names.flatMap (· ++ ['\n'])
    | .commas => withCommas width 0 names
    | _ => if width = 0 then (("  ".toList).intercalate names) ++ ['\n'] else inColumns layout width names

end DocViewer.Host
