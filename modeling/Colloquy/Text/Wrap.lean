import Colloquy.Text.Width

/-!
# Wrapping text

Text is wrapped line by line into lines of a given width, with the breaks chosen so that the lines
of a paragraph together look best. A line is first cut into pieces: words with the spaces after
them, words also at hyphens between letters, and pieces wider than the line into smaller ones.
Every choice of breaks has a cost, and the cheapest one is taken; of equally cheap ones the one
whose last line is longest, and so on back to the first line.

Spaces at a break are dropped. A line that is short in bytes is not cut at all.
-/

namespace Colloquy.Text.Wrap

/-- A piece of a line that is not broken: its characters, their columns, and the number of spaces
that follow. -/
structure Piece where
  characters : List Char
  columns : Nat
  spaces : Nat
  deriving DecidableEq, Repr

/-- What is left of a control sequence that starts after an escape character. A sequence opened by a
bracket ends with a letter or sign; one opened by `]` ends with a bell or with an escape and a
backslash; any other is one character long. -/
def afterEscape : List Char → List Char
  | [] => []
  | '[' :: rest => (rest.dropWhile fun c => !(0x40 ≤ c.toNat && c.toNat ≤ 0x7e)).drop 1
  | ']' :: rest => afterCommand ']' rest
  | _ :: rest => rest
where
  /-- What is left of a command, given the character before. -/
  afterCommand : Char → List Char → List Char
    | _, [] => []
    | last, next :: rest =>
        if next.toNat = 7 || (next = '\\' && last.toNat = 0x1b) then rest
        else afterCommand next rest

/-- The character that starts a control sequence. -/
def escape : Char := Char.ofNat 0x1b

theorem afterCommand_length (last : Char) (text : List Char) :
    (afterEscape.afterCommand last text).length ≤ text.length := by
  induction text generalizing last with
  | nil => simp [afterEscape.afterCommand]
  | cons next rest ih =>
      simp only [afterEscape.afterCommand]
      split
      · simp
      · exact Nat.le_succ_of_le (ih next)

theorem dropWhile_length_le (p : Char → Bool) (text : List Char) :
    (text.dropWhile p).length ≤ text.length := by
  induction text with
  | nil => simp
  | cons next rest ih =>
      simp only [List.dropWhile_cons]
      split
      · exact Nat.le_succ_of_le ih
      · simp

theorem afterEscape_length (text : List Char) : (afterEscape text).length ≤ text.length := by
  unfold afterEscape
  split
  · simp
  · rename_i rest
    have shorter := dropWhile_length_le (fun c => !(0x40 ≤ c.toNat && c.toNat ≤ 0x7e)) rest
    simp only [List.length_drop, List.length_cons]
    omega
  · exact Nat.le_succ_of_le (afterCommand_length _ _)
  · simp

/-- The columns of characters counted one by one; control sequences take none. -/
def charColumns : List Char → Nat
  | [] => 0
  | character :: rest =>
      if character = escape then charColumns (afterEscape rest)
      else charWidth character + charColumns rest
  termination_by text => text.length
  decreasing_by
    · exact Nat.lt_succ_of_le (afterEscape_length rest)
    · simp

/-- Cut a line into words, each with the spaces after it. The characters of the open word come last
one first. -/
def wordsFrom : List Char → Nat → List Char → List (List Char × Nat)
  | word, spaces, [] => if word.isEmpty && spaces = 0 then [] else [(word.reverse, spaces)]
  | word, spaces, character :: rest =>
      if character = ' ' then wordsFrom word (spaces + 1) rest
      else if spaces = 0 then wordsFrom (character :: word) 0 rest
      else (word.reverse, spaces) :: wordsFrom [character] 0 rest

/-- The words of a line; leading spaces follow an empty word. -/
def words (line : List Char) : List (List Char × Nat) :=
  wordsFrom [] 0 line

/-- Cut a word after every hyphen between letters or numbers. The open part comes last character
first. -/
def partsFrom : List Char → List Char → List (List Char)
  | part, [] => [part.reverse]
  | part, character :: rest =>
      let before := part.headD ' '
      let after := rest.headD ' '
      if character = '-' && isAlphanumeric before && isAlphanumeric after then
        (character :: part).reverse :: partsFrom [] rest
      else partsFrom (character :: part) rest

/-- The parts of a word; the spaces stay with the last one. -/
def parts (word : List Char) (spaces : Nat) : List Piece :=
  let cut := partsFrom [] word
  cut.dropLast.map (fun part => ⟨part, charColumns part, 0⟩) ++
    (cut.getLast?.toList.map fun part => ⟨part, charColumns part, spaces⟩)

/-- Cut a piece so that no part is wider than the line, unless it is a single character. The open
part comes last character first, with its columns. -/
def shortenFrom (width : Nat) (spaces : Nat) : List Char → Nat → List Char → List Piece
  | part, columns, [] => if part.isEmpty then [] else [⟨part.reverse, columns, spaces⟩]
  | part, columns, character :: rest =>
      if character = escape then
        let left := afterEscape rest
        let taken := rest.take (rest.length - left.length)
        shortenFrom width spaces (taken.reverse ++ character :: part) columns left
      else if 0 < columns && width < columns + charWidth character then
        ⟨part.reverse, columns, 0⟩ ::
          shortenFrom width spaces [character] (charWidth character) rest
      else shortenFrom width spaces (character :: part) (columns + charWidth character) rest
  termination_by _ _ text => text.length
  decreasing_by
    · exact Nat.lt_succ_of_le (afterEscape_length rest)
    · simp
    · simp

/-- The piece, or its parts if it is wider than the line. -/
def shorten (width : Nat) (piece : Piece) : List Piece :=
  if width < piece.columns then shortenFrom width piece.spaces [] 0 piece.characters else [piece]

/-- The pieces of a line. -/
def pieces (width : Nat) (line : List Char) : List Piece :=
  ((words line).flatMap fun word => parts word.1 word.2).flatMap (shorten width)

/-- What lines cost: every line its share, a line that is too wide by every column too many, any
other line by the square of its gap. The last line costs nothing for its gap, but something if it
is a single short piece. -/
structure Costs where
  line : Nat := 1000
  overflowColumn : Nat := 2500
  shortLast : Nat := 25
  /-- A last line is short below this fraction of the width. -/
  shortFraction : Nat := 4
  deriving Repr

/-- The costs that lines are chosen by. -/
def costs : Costs := {}

/-- The columns up to every piece, spaces included. -/
def offsets (pieces : List Piece) : List Nat :=
  pieces.foldl
    (fun (done : List Nat × Nat) piece =>
      let next := done.2 + piece.columns + piece.spaces
      (next :: done.1, next))
    ([0], 0) |>.1.reverse

/-- The cost of a line of the given columns, without what comes before it. -/
def lineCost (width columns : Nat) (isLast isSingle : Bool) : Nat :=
  let target := max width 1
  if target < columns then costs.line + (columns - target) * costs.overflowColumn
  else if !isLast then costs.line + (target - columns) * (target - columns)
  else if isSingle && columns * costs.shortFraction < target then costs.line + costs.shortLast
  else costs.line

/-- The best way to break before a piece: where the line before it starts, and the cost so far. -/
structure Break where
  start : Nat
  cost : Nat
  deriving DecidableEq, Repr, Inhabited

/-- The best way to end a line before piece `stop`, given the best ways for all earlier pieces. -/
def bestBreak (width : Nat) (offsets spaces : Array Nat) (count : Nat) (breaks : Array Break)
    (stop : Nat) : Break :=
  let finish := offsets[stop]! - spaces[stop - 1]!
  let option (start : Nat) : Break :=
    ⟨start, breaks[start]!.cost +
      lineCost width (finish - offsets[start]!) (stop == count) (start + 1 == stop)⟩
  (List.range stop).foldl
    (fun best start =>
      let next := option start
      if next.cost < best.cost then next else best)
    (option 0)

/-- The best ways to break before every piece and at the end. -/
def breaks (width : Nat) (pieces : List Piece) : Array Break :=
  let offsets := (offsets pieces).toArray
  let spaces := (pieces.map Piece.spaces).toArray
  (List.range pieces.length).foldl
    (fun (done : Array Break) index =>
      done.push (bestBreak width offsets spaces pieces.length done (index + 1)))
    #[⟨0, 0⟩]

/-- The starts and stops of the lines, from the last one back. The steps bound the number of
lines. -/
def backtrack (breaks : Array Break) : Nat → Nat → List (Nat × Nat)
  | 0, _ => []
  | steps + 1, stop =>
      let start := breaks[stop]!.start
      (start, stop) :: (if start = 0 then [] else backtrack breaks steps start)

/-- The text of the pieces of one line, without the spaces at its end. -/
def lineText : List Piece → List Char
  | [] => []
  | [last] => last.characters
  | piece :: rest => piece.characters ++ List.replicate piece.spaces ' ' ++ lineText rest

/-- The lines that pieces are put on. -/
def fill (width : Nat) (pieces : List Piece) : List (List Char) :=
  if pieces.isEmpty then [[]]
  else
    (backtrack (breaks width pieces) pieces.length pieces.length).reverse.map fun span =>
      lineText ((pieces.drop span.1).take (span.2 - span.1))

/-- The characters without the spaces at the end. -/
def dropSpacesEnd (line : List Char) : List Char :=
  (line.reverse.dropWhile (· == ' ')).reverse

/-- The bytes of characters. -/
def byteLength (characters : List Char) : Nat :=
  characters.foldl (fun total character => total + character.utf8Size) 0

/-- Wrap one line. -/
def wrapLine (width : Nat) (line : List Char) : List (List Char) :=
  if byteLength line < width then [dropSpacesEnd line] else fill width (pieces width line)

/-- Cut text at line feeds. The open line comes last character first. -/
def linesFrom : List Char → List Char → List (List Char)
  | line, [] => [line.reverse]
  | line, character :: rest =>
      if character = '\n' then line.reverse :: linesFrom [] rest
      else linesFrom (character :: line) rest

/-- Wrap text into lines of a width; a width of zero counts as one. -/
def wrap (width : Nat) (text : List Char) : List (List Char) :=
  (linesFrom [] text).flatMap (wrapLine (max width 1))

end Colloquy.Text.Wrap
