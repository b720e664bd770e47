import TaggedCorpus.Text.Basic

/-!
Texts cut into lines.

What breaks a line is a parameter: a text held in memory breaks at ten characters, a text
read from a file at two of them. A carriage return followed by a line feed is one break.
-/

namespace TaggedCorpus.Text

/-- The two characters that end a line of a file. -/
def isNewline (c : Char) : Bool := c == '\n' || c == '\r'

/-- The characters that end a line of a text held in memory, but not of a file. -/
def isExoticBreak (c : Char) : Bool :=
  let n := c.toNat
  n == 0x0B || n == 0x0C || (0x1C ≤ n && n ≤ 0x1E) || n == 0x85 || n == 0x2028 || n == 0x2029

/-- The characters that end a line of a text held in memory. -/
def isLineBreak (c : Char) : Bool := isNewline c || isExoticBreak c

/-- Writes each pair of carriage return and line feed as one line feed. -/
def unifyBreaks : Text → Text
  | [] => []
  | c :: rest =>
    if c == '\r' && rest.head? == some '\n' then unifyBreaks rest else c :: unifyBreaks rest

/-- What the breaks of a text part; the last piece is the one that no break ends. -/
def pieces (isBreak : Char → Bool) (t : Text) : List Text := (unifyBreaks t).splitOnP isBreak

/-- The lines of a text. A break at the very end opens no further line. -/
def linesAt (isBreak : Char → Bool) (t : Text) : List Text :=
  (pieces isBreak t).dropLast ++ ((pieces isBreak t).getLast?.toList.filter fun l => !l.isEmpty)

/-- The lines of a text held in memory. -/
def lines (t : Text) : List Text := linesAt isLineBreak t

/-- The lines of a file with this content. -/
def fileLines (t : Text) : List Text := linesAt isNewline t

/-- The lines of a file that are known to be complete when the file stops short after this
content. A carriage return at its end may be the first half of a break. -/
def completeFileLines (t : Text) : List Text :=
  (pieces isNewline (if t.getLast? = some '\r' then t.dropLast else t)).dropLast

/-- The content of a file with each of its line breaks written as one line feed. -/
def withLineFeeds (t : Text) : Text := (unifyBreaks t).map fun c => if c == '\r' then '\n' else c

/-- The lines of a text that breaks at line feeds alone, each with its line feed. -/
def feedLines : Text → List Text
  | [] => []
  | c :: rest =>
    if c == '\n' then [c] :: feedLines rest
    else match feedLines rest with
      | [] => [[c]]
      | l :: ls => (c :: l) :: ls

/-- A line without the line feeds and carriage returns at its end. -/
def chomp (t : Text) : Text := dropEndWhile isNewline t

end TaggedCorpus.Text
