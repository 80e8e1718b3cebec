import Colloquy.Text.Blank
import Colloquy.Text.Cluster
import Colloquy.Text.Wrap

/-!
# Flowing text

Text drawn in a field flows from line to line: words are put on a line as long as they fit, and a
word that is wider than a line is cut. Blanks between words are kept; those that fall on the end of
a line fill it up and are otherwise dropped. A field may also drop the blanks that start a line.
-/

namespace Colloquy.Text

/-- A space at which no line may be broken. -/
def stickySpace : Char := '\u00a0'

/-- A break without any width. -/
def emptyBreak : Char := '\u200b'

/-- Whether a cluster separates words. -/
def Cluster.isSeparator (cluster : Cluster) : Bool :=
  cluster == [emptyBreak] || (cluster.all isBlank && cluster != [stickySpace])

/-- The clusters of text that can be drawn. -/
def drawable (text : List Char) : List Cluster :=
  (clusters text).filter Cluster.isDrawable

namespace Flow

/-- Text under way: finished lines, the open line, and the blanks and the word that follow it. The
lines, and the clusters of line and word, are kept last one first. -/
structure State where
  lines : List (List Cluster) := []
  line : List Cluster := []
  lineWidth : Nat := 0
  blanks : List Cluster := []
  blanksWidth : Nat := 0
  word : List Cluster := []
  wordWidth : Nat := 0
  afterWord : Bool := false
  deriving Repr

/-- Put the blanks and the word on the open line. Blanks that would start a line are dropped if the
field drops them. -/
def State.join (state : State) (dropLeading : Bool) : State :=
  let keepBlanks := !state.line.isEmpty || !dropLeading
  { state with
    line := state.word ++ (if keepBlanks then state.blanks.reverse else []) ++ state.line
    lineWidth := state.lineWidth + (if keepBlanks then state.blanksWidth else 0) + state.wordWidth
    blanks := []
    blanksWidth := 0
    word := []
    wordWidth := 0 }

/-- Drop the blanks that fit into the rest of a line. -/
def dropFitting : Nat → List Cluster → List Cluster
  | _, [] => []
  | room, blank :: rest =>
      if blank.width ≤ room then dropFitting (room - blank.width) rest else blank :: rest

/-- End the open line; blanks that still fit on it are gone. -/
def State.endLine (state : State) (limit : Nat) : State :=
  let blanks := dropFitting (limit - state.lineWidth) state.blanks
  { state with
    lines := state.line.reverse :: state.lines
    line := []
    lineWidth := 0
    blanks := blanks
    blanksWidth := totalWidth blanks }

/-- Whether the word, or the blanks before it, must be put on the line before the next cluster. -/
def State.mustJoin (state : State) (limit : Nat) (dropLeading blank : Bool) (width : Nat) : Bool :=
  (state.afterWord && blank) ||
    (state.line.isEmpty &&
      if dropLeading then
        limit < state.wordWidth + width || limit < state.blanksWidth + width
      else limit < state.wordWidth + state.blanksWidth + width)

/-- Whether the line must end before the next cluster. -/
def State.mustEnd (state : State) (limit width : Nat) : Bool :=
  limit ≤ state.lineWidth ||
    (0 < width && limit ≤ state.lineWidth + state.blanksWidth + state.wordWidth)

/-- Put a cluster behind the word or the blanks. -/
def State.add (state : State) (cluster : Cluster) (blank : Bool) : State :=
  if blank then
    { state with
      blanks := state.blanks ++ [cluster]
      blanksWidth := state.blanksWidth + cluster.width
      afterWord := false }
  else
    { state with
      word := cluster :: state.word
      wordWidth := state.wordWidth + cluster.width
      afterWord := true }

/-- Take one cluster. A cluster wider than the field is left out. -/
def step (limit : Nat) (dropLeading : Bool) (state : State) (cluster : Cluster) : State :=
  if limit < cluster.width then state
  else
    let blank := cluster.isSeparator
    let joined :=
      if state.mustJoin limit dropLeading blank cluster.width then state.join dropLeading else state
    if joined.mustEnd limit cluster.width then
      let ended := joined.endLine limit
      if blank && ended.blanks.isEmpty then ended else ended.add cluster blank
    else joined.add cluster blank

/-- The lines when the text ends, the first one first. Blanks that are dropped leave an empty line. -/
def State.finish (state : State) (dropLeading : Bool) : List (List Cluster) :=
  let onlyBlanks := state.line.isEmpty && state.word.isEmpty && !state.blanks.isEmpty
  let lines := if onlyBlanks && dropLeading then [] :: state.lines else state.lines
  let last := (state.join dropLeading).line
  let lines := if last.isEmpty then lines else last.reverse :: lines
  if lines.isEmpty then [[]] else lines.reverse

/-- Lay out one line of text in a field of the given width. -/
def line (limit : Nat) (dropLeading : Bool) (text : List Char) : List (List Cluster) :=
  ((drawable text).foldl (step limit dropLeading) {}).finish dropLeading

end Flow

/-- Cut off a line when it is full. A cluster wider than the field is left out. -/
def truncateLine : Nat → Nat → List Cluster → List Cluster
  | _, _, [] => []
  | limit, room, cluster :: rest =>
      if limit < cluster.width then truncateLine limit room rest
      else if room < cluster.width then []
      else cluster :: truncateLine limit (room - cluster.width) rest

/-- A line without the carriage return that ends it before a line feed. -/
def dropReturn (line : List Char) : List Char :=
  if line.getLast? = some '\r' then line.dropLast else line

/-- The lines of a text for display: line feeds end lines, with or without a carriage return
before them, and the last line counts only if something is on it. Empty text is one empty line. -/
def displayLines (text : List Char) : List (List Char) :=
  let lines := Wrap.linesFrom [] text
  let ended := lines.dropLast.map dropReturn
  let last := lines.getLast?.getD []
  if ended.isEmpty || !last.isEmpty then ended ++ [last] else ended

end Colloquy.Text
