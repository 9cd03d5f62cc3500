import PolicyRouting.Calendar.Timestamp
import PolicyRouting.Console.Session
import Std.Time.DateTime.Timestamp

/-!
# The program

The outer layer: it answers the questions of a script from the file system,
the environment and the clock, prints the outcome and ends with its code.
-/

namespace PolicyRouting.Console

def faultOf : IO.Error → FileFault
  | .noFileOrDirectory .. => .missing
  | .inappropriateType _ code _ => if code = 21 then .isDirectory else .notADirectory
  | .alreadyExists .. => .alreadyExists
  | problem => .other (toString problem)

def readText (path : String) : IO (Except FileFault String) := do
  try
    match String.fromUTF8? (← IO.FS.readBinFile path) with
    | some content => return .ok content
    | none => return .error .notText
  catch problem => return .error (faultOf problem)

def parentPath (path : String) : String :=
  (if FileTree.isRooted path then "/" else "") ++ Text.joined "/" (FileTree.parentNames path)

def makeParents (path : String) : IO (Except FileFault Unit) := do
  try
    unless parentPath path = "" do IO.FS.createDirAll (parentPath path)
    return .ok ()
  catch problem => return .error (faultOf problem)

def writeText (path content : String) : IO (Except FileFault Unit) := do
  try
    IO.FS.writeFile path content
    return .ok ()
  catch problem => return .error (faultOf problem)

def saveText (path content : String) : IO (Except SaveFault Unit) := do
  match ← makeParents path with
  | .error cause => return .error (.directories cause)
  | .ok () => return (← writeText path content).mapError .content

def Script.perform {α : Type} : Script α → IO α
  | .done result => return result
  | .read path next => do perform (next (← readText path))
  | .save path content next => do perform (next (← saveText path content))

def surroundings : IO Surroundings := do
  let state ← IO.getEnv "OSDF_STATE"
  let home ← IO.getEnv "HOME"
  let now ← Std.Time.Timestamp.now
  return {
    home := home.filter (· ≠ "")
    environment := fun name => if name = "OSDF_STATE" then state else none
    now := .ofEpochNanos now.toNanosecondsSinceUnixEpoch.val.toNat }

end PolicyRouting.Console

def main (args : List String) : IO UInt32 := do
  let outcome ← (PolicyRouting.Console.program (← PolicyRouting.Console.surroundings) args).perform
  IO.print outcome.out
  IO.eprint outcome.err
  return UInt32.ofNat outcome.code
