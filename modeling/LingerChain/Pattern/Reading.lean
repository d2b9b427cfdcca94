/-
This file reads the whole text of a pattern as a tree.
-/

import LingerChain.Pattern.Bracket
import LingerChain.Pattern.Count
import LingerChain.Pattern.Opening

namespace LingerChain.Pattern

/-- A branch is what stands between two bars, the last item first. -/
structure Branch where
  start : Location
  items : List Tree

namespace Branch

def tree (branch : Branch) (stop : Location) : Tree :=
  match branch.items with
  | [] => .empty
  | [item] => item
  | items => .sequence items.reverse ⟨branch.start, stop⟩

end Branch

/-- A level is a group that is being read, or the whole pattern. Its branches are last first. -/
structure Level where
  start : Location
  branches : List Tree
  branch : Branch

namespace Level

def empty (location : Location) : Level := ⟨location, [], ⟨location, []⟩⟩

def push (level : Level) (item : Tree) : Level :=
  ⟨level.start, level.branches, ⟨level.branch.start, item :: level.branch.items⟩⟩

/-- A bar at `stop` ends a branch, and the next one begins behind it. -/
def bar (level : Level) (stop next : Location) : Level :=
  ⟨level.start, level.branch.tree stop :: level.branches, ⟨next, []⟩⟩

def tree (level : Level) (stop : Location) : Tree :=
  match level.branches with
  | [] => level.branch.tree stop
  | branches => .choice (branches.reverse ++ [level.branch.tree stop]) ⟨level.start, stop⟩

/-- Only what can match something by itself is repeated. -/
def takeLast? (level : Level) : Option (Tree × Extent × Level) :=
  match level.branch.items with
  | [] => none
  | item :: rest =>
      item.extent?.map fun extent =>
        (item, extent, ⟨level.start, level.branches, ⟨level.branch.start, rest⟩⟩)

end Level

/-- A group that is not closed yet stands in a level of its own. -/
structure OpenGroup where
  outer : Level
  captures : Bool
  settings : List Setting
  extent : Extent
  /-- Blanks are treated as before when the group is closed. -/
  verboseOutside : Bool

/-- The names of groups are known all over the pattern. -/
structure Reading where
  level : Level
  around : List OpenGroup
  names : List GroupName

namespace Reading

def atStart : Reading := ⟨.empty .first, [], []⟩

def push (reading : Reading) (item : Tree) : Reading :=
  ⟨reading.level.push item, reading.around, reading.names⟩

end Reading

namespace Reader

def setVerbose (verbose : Bool) : Reader Unit :=
  modify fun cursor => ⟨cursor.location, cursor.ahead, verbose⟩

def openParenthesis (reading : Reading) : Reader Reading := do
  let extent ← headExtent
  let verbose := (← get).verbose
  match ← opening reading.names with
  | .settings settings =>
      setVerbose (Flag.verbose.settled settings verbose)
      return reading.push (.settings settings)
  | .group captures settings name =>
      setVerbose (Flag.verbose.settled settings verbose)
      let group : OpenGroup := ⟨reading.level, captures, settings, extent, verbose⟩
      return ⟨.empty (← here), group :: reading.around, reading.names ++ name.toList⟩

def closeParenthesis (reading : Reading) : Reader Reading := do
  match reading.around with
  | [] => fail .unopenedGroup (← headExtent)
  | group :: around =>
      let inside := reading.level.tree (← here)
      setVerbose group.verboseOutside
      advance
      let tree := .group group.captures group.settings inside (← since group.extent.start)
      return ⟨group.outer.push tree, around, reading.names⟩

def bar (reading : Reading) : Reader Reading := do
  let stop ← here
  advance
  return ⟨reading.level.bar stop (← here), reading.around, reading.names⟩

def repetition (reading : Reading) (sign : Char) : Reader Reading := do
  match reading.level.takeLast? with
  | none => fail .nothingRepeated (.point (← here))
  | some (item, extent, level) =>
      let count ← count sign
      let tree := .times item count.least count.most (← since extent.start)
      return ⟨level.push tree, reading.around, reading.names⟩

def finish (reading : Reading) : Reader Tree := do
  match reading.around with
  | [] => return reading.level.tree (← here)
  | group :: _ => fail .unclosedGroup group.extent

def part (reading : Reading) (character : Char) : Reader Reading := do
  if character = '(' then openParenthesis reading
  else if character = ')' then closeParenthesis reading
  else if character = '|' then bar reading
  else if character ∈ ['?', '*', '+', '\x7b'] then repetition reading character
  else if character = '[' then return reading.push (← bracket)
  else
    let (atom, extent) ← atom character
    return reading.push (.atom atom extent)

/-- Every part takes at least one character. -/
def parts : Nat → Reading → Reader Tree
  | 0, reading => finish reading
  | count + 1, reading => do
      skip
      match ← head? with
      | none => finish reading
      | some character => parts count (← part reading character)

end Reader

namespace Tree

/-- The text is read to its end before the depth is measured. -/
def read (pattern : List Char) : Except Fault Tree := do
  let (tree, _) ← (Reader.parts (pattern.length + 1) .atStart).run (.atStart pattern)
  match tree.tooDeep? depthLimit with
  | some extent => .error ⟨.tooDeep, extent, none⟩
  | none => .ok tree

end Tree

end LingerChain.Pattern
