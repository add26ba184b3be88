import StorageSetup.Text.Width
/-!
# Canvas

Areas of a terminal are lists of lines, and a line is a list of cells. Text is cut where it does not
fit, areas are put beside each other cell by cell and below each other line by line.

Key definitions:
- `fit`: a text in a given number of cells
- `box`: a framed area with a title
- `beside`: areas of the same height beside each other
- `printed`: a line as text
-/

namespace StorageSetup.Canvas

/-- A line of cells; a cell holds the text that starts in it, a blank where it is covered. -/
abbrev Line := List String

/-- A line of the same text in every cell. -/
def run (width : Nat) (cell : String) : Line :=
  List.replicate width cell

def blank (width : Nat) : Line :=
  run width " "

/-- The cells of a cluster. Marks without a character before them have none. -/
def place (k : Text.Cluster) : Line :=
  match k.cells with
  | 0 => []
  | n + 1 => k.text :: blank n

/-- As many clusters as fit, filled up with blanks. Nothing follows a cluster that does not fit. -/
def fitClusters : Nat → List Text.Cluster → Line
  | room, [] => blank room
  | room, k :: rest =>
    if k.cells ≤ room then place k ++ fitClusters (room - k.cells) rest else blank room

/-- A text in the given number of cells. Ends of lines inside it are left out. -/
def fit (width : Nat) (text : String) : Line :=
  fitClusters width (Text.clusters (text.toList.filter (· ≠ '\n')))

/-- A text up to the end of its first line. -/
def firstLine (text : String) : String :=
  String.ofList (text.toList.takeWhile (· ≠ '\n'))

/-- Lines filled up with blank ones, or cut, to a height. -/
def pad (width height : Nat) (lines : List Line) : List Line :=
  lines.take height ++ List.replicate (height - lines.length) (blank width)

/-- The upper edge of a frame, with its title. -/
def upperEdge (width : Nat) (title : String) : Line :=
  let shown := (Text.clusters title.toList).flatMap place
  let inner := shown.take width ++ run (width - shown.length) "─"
  "┌" :: inner ++ ["┐"]

/-- A framed area of the given outer size. What does not fit into it is left out. -/
def box (title : String) (width height : Nat) (lines : List Line) : List Line :=
  let inner := width - 2
  let body := (pad inner (height - 2) lines).map fun line => "│" :: line ++ ["│"]
  let lines := upperEdge inner title :: body ++ ["└" :: run inner "─" ++ ["┘"]]
  (lines.take height).map (·.take width)

/-- Areas of the same height beside each other. -/
def beside (left right : List Line) : List Line :=
  List.zipWith (· ++ ·) left right

/-- A line as text, without blanks at its end. -/
def printed (line : Line) : String :=
  String.ofList ((String.join line).toList.reverse.dropWhile (· = ' ')).reverse

end StorageSetup.Canvas
