/-
This file names the program after the path that it was started by.
-/

import LingerChain.Text.Utf8

namespace LingerChain

def packageName : String := "reaper-ptree"

namespace Path

def separator : UInt8 := 0x2F

def here : Bytes := [0x2E]

def above : Bytes := [0x2E, 0x2E]

/-- Empty parts and parts that stay in the same place name nothing. -/
def segments (path : Bytes) : List Bytes :=
  (path.splitOn separator).filter fun part => part ≠ [] ∧ part ≠ here

def fileName? (path : Bytes) : Option Bytes :=
  (segments path).getLast?.filter (· ≠ above)

end Path

def programName (path : Option Bytes) : String :=
  ((path.bind Path.fileName?).map Bytes.lossy).getD packageName

/-- Texts of the command line name the program only by a file name that is text. -/
def commandName (path : Option Bytes) : String :=
  ((path.bind Path.fileName?).bind Bytes.text?).getD packageName

end LingerChain
