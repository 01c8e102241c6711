/-!
# Structured text

Diagnostic text shows values as nested terms. A term is laid out either on one line or as a block,
in which every part of a group stands on lines of its own, indented by four columns and closed by a
comma. An empty group keeps to one line in either layout.
-/

namespace CountedHandles

/-- The brackets around the parts of a group. -/
inductive Brackets where
  /-- Named parts: braces, set off by blanks. -/
  | record
  /-- Unnamed parts: parentheses. -/
  | tuple
  /-- Entries of a table: braces without blanks. -/
  | table
deriving DecidableEq

namespace Brackets

/-- What opens a group that follows its head. -/
def opening : Brackets → String
  | .record => " \x7b"
  | .tuple => "("
  | .table => "\x7b"

/-- What closes a group. -/
def closing : Brackets → String
  | .record => "\x7d"
  | .tuple => ")"
  | .table => "\x7d"

/-- What sets the parts off from the brackets on one line. -/
def margin : Brackets → String
  | .record => " "
  | .tuple => ""
  | .table => ""

end Brackets

/-- A value in diagnostic text. -/
inductive Term where
  /-- Text without parts. -/
  | word (text : String)
  /-- Two dots for parts that are not shown; no comma follows them. -/
  | omission
  /-- A value under a key. -/
  | entry (key value : Term)
  /-- Parts in brackets behind a head. -/
  | group (head : String) (brackets : Brackets) (parts : List Term)

namespace Term

/-- A named part. -/
def field (name : String) (value : Term) : Term :=
  .entry (.word name) value

mutual

/-- A term on one line. -/
def line : Term → String
  | .word text => text
  | .omission => ".."
  | .entry key value => key.line ++ ": " ++ value.line
  | .group head brackets parts =>
    if parts.isEmpty then head ++ brackets.opening ++ brackets.closing
    else head ++ brackets.opening ++ brackets.margin ++
      ", ".intercalate (lineEach parts) ++ brackets.margin ++ brackets.closing

/-- Each part on one line. -/
def lineEach : List Term → List String
  | [] => []
  | part :: rest => part.line :: lineEach rest

end

/-- Joins the last of some lines with the first of the next, across a separator. -/
def joinLines (separator : String) : List String → List String → List String
  | [], after => after
  | [last], [] => [last ++ separator]
  | [last], first :: rest => (last ++ separator ++ first) :: rest
  | line :: rest, after => line :: joinLines separator rest after

/-- Ends a part of a block: its last line takes a comma. -/
def closePart (lines : List String) : List String :=
  joinLines "," lines []

mutual

/-- The lines of a term laid out as a block. -/
def block : Term → List String
  | .word text => [text]
  | .omission => [".."]
  | .entry key value => joinLines ": " key.block value.block
  | .group head brackets parts =>
    if parts.isEmpty then [head ++ brackets.opening ++ brackets.closing]
    else (head ++ brackets.opening) :: (blockEach parts).map ("    " ++ ·) ++ [brackets.closing]

/-- The lines of the parts of a block. -/
def blockEach : List Term → List String
  | [] => []
  | .omission :: rest => ".." :: blockEach rest
  | part :: rest => closePart part.block ++ blockEach rest

end

/-- The text of a block. -/
def blockText (term : Term) : String :=
  "\n".intercalate term.block

end Term

end CountedHandles
