/-!
# Structured values as text

A structured value is written as a name with its labelled parts. It has two layouts: on one line,
and with one part a line, indented by four blanks a level. A record may be open: it ends in two
dots, which say that not every part is shown.

## Main definitions

* `Text.Tree`, `Text.Parts`: structured values and their labelled parts
* `Text.Tree.line`: the layout on one line
* `Text.Tree.lines`: the indented layout
-/

namespace TwoFlow.Text

mutual

/-- A structured value. -/
inductive Tree where
  /-- A value without parts. -/
  | atom (text : String)
  /-- A name with labelled parts; an open record has more of them than it shows. -/
  | record (name : String) (parts : Parts) (isOpen : Bool)

/-- Labelled parts of a record. -/
inductive Parts where
  | nil
  | cons (label : String) (value : Tree) (rest : Parts)

end

/-- Parts from a list of labels and values. -/
def Parts.ofList : List (String × Tree) → Parts
  | [] => .nil
  | (label, value) :: rest => .cons label value (Parts.ofList rest)

/-- A record all of whose parts are shown. -/
def Tree.closed (name : String) (parts : List (String × Tree)) : Tree :=
  .record name (.ofList parts) false

/-- A number as a value without parts. -/
def Tree.nat (n : Nat) : Tree := .atom (toString n)

mutual

/-- The value on one line. -/
def Tree.line : Tree → String
  | .atom text => text
  | .record name parts isOpen =>
    let items := parts.line ++ if isOpen then [".."] else []
    name ++ " \x7b " ++ ", ".intercalate items ++ " \x7d"

/-- Each part on one line. -/
def Parts.line : Parts → List String
  | .nil => []
  | .cons label value rest => (label ++ ": " ++ value.line) :: rest.line

end

/-- Puts a comma after the last line. -/
def commaLast : List String → List String
  | [] => []
  | [last] => [last ++ ","]
  | line :: rest => line :: commaLast rest

/-- Puts a label before the first line and a comma after the last one. -/
def labelled (label : String) (lines : List String) : List String :=
  match commaLast lines with
  | [] => []
  | first :: rest => (label ++ ": " ++ first) :: rest

mutual

/-- The lines of the value: a part a line, indented by four blanks. -/
def Tree.lines : Tree → List String
  | .atom text => [text]
  | .record name parts isOpen =>
    let inner := parts.lines ++ if isOpen then [".."] else []
    [name ++ " \x7b"] ++ inner.map ("    " ++ ·) ++ ["\x7d"]

/-- The lines of the parts, one part after the other. -/
def Parts.lines : Parts → List String
  | .nil => []
  | .cons label value rest => labelled label value.lines ++ rest.lines

end

/-- The value in the indented layout. -/
def Tree.indented (v : Tree) : String := "\n".intercalate v.lines

end TwoFlow.Text
