/-
This file cuts a text into its lines.
-/

namespace LingerChain

/-- A carriage return before the line feed belongs to the end of a line. -/
def dropReturn (line : List Char) : List Char :=
  if line.getLast? = some '\r' then line.dropLast else line

/-- A line feed ends a line, and the rest is a line of its own unless it is empty. -/
def lines (text : List Char) : List (List Char) :=
  match (text.splitOn '\n').reverse with
  | [] => []
  | rest :: ended =>
      ended.reverse.map dropReturn ++ if rest = [] then [] else [rest]

end LingerChain
