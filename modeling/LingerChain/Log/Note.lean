/-
This file holds the notes that a node takes on its way, and the line of the log for each.
-/

import LingerChain.Failure
import LingerChain.Wait

namespace LingerChain

inductive Note where
  | node (own depth : Nat) (head : Millis)
  | spawned (executable : Bytes) (arguments : List String) (child : Nat)
  | launched (child remaining : Nat)
  | applying (wait : Wait)
  | asleep
  | done
  | failed (own : Nat) (obstacle : Obstacle)
  deriving DecidableEq

namespace Note

/-- A target names the part of the program that takes the note. -/
def target : Note → String
  | node .. | launched .. | applying _ | done => "start"
  | spawned .. => "launch"
  | asleep => "queue"
  | failed .. => "main"

def message (display : Display) : Note → String
  | node own depth head =>
      "Node " ++ display.own own ++ " at depth " ++ toString depth ++ ", head " ++ head.text ++ "ms"
  | spawned executable arguments child =>
      "Spawned " ++ display.path executable ++ " " ++ quoteList arguments ++ " as " ++
        display.child child
  | launched child remaining =>
      "Launched child " ++ display.child child ++ " with " ++ toString remaining ++
        " remaining levels"
  | applying wait => "Applying " ++ wait.text
  | asleep => "Sleeping until killed"
  | done => "Done"
  | failed own obstacle => "Node " ++ display.own own ++ " failed: " ++ obstacle.text display

def line (display : Display) (note : Note) : String :=
  "[DEBUG " ++ note.target ++ "] " ++ note.message display ++ "\n"

end Note

end LingerChain
