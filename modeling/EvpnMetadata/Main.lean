import EvpnMetadata.Daemon

/-! # The program

Reads the settings file, runs the daemon and prints what it has to say.  No server is reached from
here, so commands that need one end as they do when the server is down.
-/

namespace EvpnMetadata

/-- What is found at a path. -/
def readSettings (path : String) : IO Settings.FileContent :=
  tryCatch (do return .bytes (← IO.FS.readBinFile path)) fun
    | .noFileOrDirectory .. => return .missing
    | .inappropriateType .. => return .directory
    | fault => throw fault

end EvpnMetadata

open EvpnMetadata in
def main (arguments : List String) : IO UInt32 := do
  let file ← match Daemon.Request.ofArguments? arguments with
    | some (.perform path _) => readSettings path
    | _ => pure .missing
  let (exit, _) := Daemon.launch arguments (fun _ => file) (fun _ _ => false) {}
  IO.print exit.out
  IO.eprint exit.err
  return exit.code.toUInt32
