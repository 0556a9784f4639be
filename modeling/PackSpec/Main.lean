import PackSpec.Command.Run

set_option autoImplicit false

namespace PackSpec

namespace Command

def reason (e : IO.Error) : String :=
  match e with
  | .noFileOrDirectory .. => "No such file or directory (os error 2)"
  | .permissionDenied .. => "Permission denied (os error 13)"
  | .inappropriateType .. => "Is a directory (os error 21)"
  | .userError _ => "stream did not contain valid UTF-8"
  | e => toString e

def files : Files IO where
  read path := do
    try return .ok (← IO.FS.readFile path) catch e => return .error (reason e)
  write path text := do
    try return .ok (← IO.FS.writeFile path text) catch e => return .error (reason e)

def start (args : List String) : IO UInt32 := do
  let e ← ofArguments files args
  IO.print e.output
  for line in e.errorLines do IO.eprintln line
  return UInt32.ofNat e.exitCode

end Command

end PackSpec

def main (args : List String) : IO UInt32 :=
  PackSpec.Command.start args
