import FlowCorrelation.Command.Run
import Std.Time.DateTime.Timestamp

namespace FlowCorrelation

def DiskFault.ofError : IO.Error → DiskFault
  | .noFileOrDirectory .. => .missing
  | .inappropriateType _ 21 _ => .isDirectory
  | .inappropriateType _ 20 _ => .notDirectory
  | e => .refused (toString e)

def attempt {α : Type} (act : IO α) : IO (Except DiskFault α) := do
  try return .ok (← act)
  catch e => return .error (.ofError e)

instance : MonadDisk IO where
  find path := do
    match ← attempt (IO.FS.readBinFile path) with
    | .ok content => return .ok (.file content)
    | .error .isDirectory => return .ok .directory
    | .error f => return .error f
  write path content := attempt (IO.FS.writeBinFile path content)
  makeDirectory path :=
    if path.isEmpty then pure (.ok ()) else attempt (IO.FS.createDirAll path)

namespace Command

def currentTime : IO Instant := do
  let nanos := (← Std.Time.Timestamp.now).toNanosecondsSinceUnixEpoch.val
  return ⟨nanos / 1000000000, (nanos % 1000000000).toNat⟩

def currentVariables : IO Variables := do
  let found ← variableNames.mapM (fun name ↦ do return (name, ← IO.getEnv name))
  return Dict.ofList (found.filterMap (fun (name, value) ↦ value.map (name, ·)))

def currentSurroundings : IO Surroundings := do
  let seed := Digest.hex (← IO.getRandomBytes 16).toList
  return {
    environment := ← currentVariables
    now := ← currentTime
    random := fun batch place ↦ Digest.ofText s!"{seed} {batch} {place}"
    ask := fun _ _ ↦ .answered 0 (.error (.network "no connection"))
    obstacle? := fun _ ↦ some "connections are not supported" }

def writeLog (asJson : Bool) (l : List Notice) : IO Unit := do
  let time := Timestamp.render (← currentTime)
  for n in l do
    IO.eprintln (if asJson then n.jsonLine time else n.textLine time)

/-- Waits until the input ends. -/
partial def awaitEnd (input : IO.FS.Stream) : IO Unit := do
  unless (← input.getLine).isEmpty do awaitEnd input

end Command

end FlowCorrelation

open FlowCorrelation Command in
def main (args : List String) : IO UInt32 := do
  let o ← run (← currentSurroundings) args
  writeLog o.jsonLog o.journal
  IO.print o.output
  if let some farewell := o.parting then
    awaitEnd (← IO.getStdin)
    writeLog o.jsonLog farewell
  IO.eprint o.complaint
  return UInt32.ofNat o.ending.code
