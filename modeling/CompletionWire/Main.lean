import CompletionWire.Cli.Run

/-!
# The program

Gathers the surroundings of a command line, of which only the settings' variables and the input that
the command names are looked at, runs it, and writes what came of it. No network belongs to these
surroundings, so a request finds nobody who answers it.
-/

namespace CompletionWire

namespace Cli

/-- A text as the system writes it; a lone surrogate, which no name can hold, becomes U+FFFD. -/
def systemName (t : Text) : String :=
  String.ofList (t.map fun c => if c.isSurrogate then Char.ofNat 0xFFFD else Char.ofNat c.val)

def environment : IO Environment :=
  Settings.variableNames.filterMapM fun name => do
    return (← IO.getEnv (systemName name)).map fun value => (name, text value)

/-- What stands under a name; what cannot be read counts as missing. -/
def entry (name : Text) : IO FileEntry :=
  try
    return .contents (← IO.FS.readBinFile (systemName name)).toList
  catch
    | .inappropriateType .. => return .directory
    | _ => return .missing

partial def drain (input : IO.FS.Stream) (read : ByteArray) : IO Bytes := do
  let more ← input.read 65536
  if more.isEmpty then return read.toList else drain input (read ++ more)

def surroundings (args : List Text) : IO Surroundings := do
  let base : Surroundings := {
    environment := ← environment
    runtimeVersion := []
    input := []
    file := fun _ => .missing
    script := [] }
  match inputName? args with
  | none => return base
  | some name =>
    if name = text "-" then return { base with input := ← drain (← IO.getStdin) .empty }
    else
      let found ← entry name
      return { base with file := fun _ => found }

def writeTo (output : IO.FS.Stream) (t : Text) : IO Unit := output.write ⟨t.utf8.toArray⟩

/-- Runs the arguments of a process and gives its exit code. -/
def execute (args : List Text) : IO UInt32 := do
  let outcome := run (← surroundings args) args
  writeTo (← IO.getStdout) outcome.output
  writeTo (← IO.getStderr) outcome.errors
  match outcome.exit with
  | .ok code => return code.toUInt32
  | .error abort =>
    writeTo (← IO.getStderr) (errorLine abort.message)
    return 1

end Cli

end CompletionWire

def main (args : List String) : IO UInt32 :=
  CompletionWire.Cli.execute (args.map CompletionWire.text)
