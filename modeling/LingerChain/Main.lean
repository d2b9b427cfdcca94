/-
This file runs a chain: the processes live side by side, and the root gives the exit status.
-/

import LingerChain.Program

namespace LingerChain.Outside

/-- The text of the filter for the log comes from this variable. -/
def filterVariable : String := "RUST_LOG"

def send (stream : Stream) (text : String) : IO Unit := do
  let target ← match stream with
    | .output => IO.getStdout
    | .error => IO.getStderr
  target.putStr text
  target.flush

/-- Long sleeps are cut into seconds. -/
def pauseSeconds : Nat → IO Unit
  | 0 => pure ()
  | seconds + 1 => do
      IO.sleep 1000
      pauseSeconds seconds

def pause (span : Span) : IO Unit := do
  pauseSeconds span.seconds
  IO.sleep (span.nanos / 1000000).toUInt32

partial def pauseForever (step : Span) : IO UInt32 := do
  pause step
  pauseForever step

def perform : Deed → IO Unit
  | .write stream text => send stream text
  | .spawn .. => pure ()
  | .sleep span => pause span

def live (life : Life) : IO UInt32 := do
  life.deeds.forM perform
  match life.finish with
  | .exited status => return status.toUInt32
  | .endless step => pauseForever step

/-- A child is numbered by the count of its arguments, which no two processes of a chain share. -/
def surroundings (executable : Bytes) : Surroundings :=
  ⟨.ok executable, fun _ arguments => .ok arguments.length⟩

def run (arguments : List String) : IO UInt32 := do
  let executable := encode (← IO.appPath).toString
  let log := Log.ofText? .full (← IO.getEnv filterVariable)
  let lives := (surroundings executable).lives log arguments.length (some executable)
    (arguments.map encode)
  let tasks ← lives.mapM fun life => IO.asTask (live life)
  let statuses ← tasks.mapM fun task => IO.ofExcept task.get
  return statuses.headD 0

end LingerChain.Outside

def main (arguments : List String) : IO UInt32 := LingerChain.Outside.run arguments
