import PolicyAttachment.CommandLine

namespace PolicyAttachment

def readText? (file : String) : IO (Option String) := do
  try
    let text ← IO.FS.readFile file
    pure (some text)
  catch _ => pure none

def readVariables : IO (List (String × String)) := do
  let found ← (Setting.all.filterMap Setting.environmentName?).mapM fun name => do
    let value ← IO.getEnv name
    pure (value.map fun v => (name, v))
  pure (found.filterMap id)

def Invocation.execute (i : Invocation) : IO UInt32 := do
  let texts ← i.files.mapM fun file => do
    let text ← readText? file
    pure (file, text)
  match i.run fun file => (texts.lookup file).join with
  | .ok report =>
    IO.print report
    pure 0
  | .error failure =>
    IO.eprintln ("Error: " ++ failure.message)
    pure 1

end PolicyAttachment

open PolicyAttachment in
def main (args : List String) : IO UInt32 := do
  match Invocation.parse? (← readVariables) args with
  | some i => i.execute
  | none =>
    IO.eprintln "error: the arguments are not understood"
    pure 2
