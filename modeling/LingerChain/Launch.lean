/-
This file launches an executable through the operating system.
-/

import LingerChain.Node

namespace LingerChain

/-- A spawner starts a file with arguments and gives the number of the new process. -/
abbrev Spawner := Bytes → List String → Except SystemFault Nat

namespace Launcher

def hasZeroByte (bytes : Bytes) : Bool := bytes.contains 0

/-- A zero byte is a fault before the operating system is asked. -/
def spawnChecked (spawn : Spawner) : Spawner := fun executable arguments =>
  if hasZeroByte executable || arguments.any (fun argument => hasZeroByte (encode argument)) then
    .error .zeroByte
  else spawn executable arguments

/-- The new process is left alone as soon as it has started. -/
def ofExecutable (spawn : Spawner) (executable : Bytes) : Launcher := fun arguments =>
  match spawnChecked spawn executable arguments with
  | .error fault => ⟨[], .error (.blocked (.noChild executable fault))⟩
  | .ok child => ⟨[.spawned executable arguments child], .ok child⟩

end Launcher

end LingerChain
