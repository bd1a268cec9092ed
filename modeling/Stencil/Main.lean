import Stencil.Cli
/-! The command-line program: the command run with the process's arguments, streams, files and
clock. -/

open Stencil

def errnoText : Nat → String
  | 1 => "Operation not permitted"
  | 2 => "No such file or directory"
  | 5 => "Input/output error"
  | 13 => "Permission denied"
  | 20 => "Not a directory"
  | 21 => "Is a directory"
  | 36 => "File name too long"
  | 40 => "Too many levels of symbolic links"
  | n => "Unknown error " ++ toString n

def errorNumber? : IO.Error → Option UInt32
  | .alreadyExists _ n _ | .otherError n _ | .resourceBusy n _ | .resourceVanished n _
  | .unsupportedOperation n _ | .hardwareFault n _ | .unsatisfiedConstraints n _
  | .illegalOperation n _ | .protocolError n _ | .timeExpired n _ | .interrupted _ n _
  | .noFileOrDirectory _ n _ | .invalidArgument _ n _ | .permissionDenied _ n _
  | .resourceExhausted _ n _ | .inappropriateType _ n _ | .noSuchThing _ n _ => some n
  | _ => none

/-- An input/output error worded the way the system reports it. -/
def describeError (e : IO.Error) : String :=
  match errorNumber? e with
  | some n => errnoText n.toNat ++ " (os error " ++ toString n ++ ")"
  | none => toString e

partial def readAll (stream : IO.FS.Stream) (acc : ByteArray) : IO ByteArray := do
  let chunk ← stream.read 65536
  if chunk.isEmpty then pure acc else readAll stream (acc ++ chunk)

def decodeText (bytes : ByteArray) : Except String String :=
  match String.fromUTF8? bytes with
  | some s => .ok s
  | none => .error "stream did not contain valid UTF-8"

/-- The process's side of a run. -/
def processEnvironment (terminal : Bool) : Cli.Environment IO where
  fileText path := do
    try
      let bytes ← IO.FS.readBinFile path
      pure (decodeText bytes)
    catch e => pure (.error (describeError e))
  inputText := do
    try
      pure (decodeText (← readAll (← IO.getStdin) ByteArray.empty))
    catch e => pure (.error (describeError e))
  stdoutIsTerminal := terminal
  clock := IO.monoNanosNow

def main (args : List String) : IO UInt32 := do
  let stdout ← IO.getStdout
  let outcome ← Cli.run (processEnvironment (← stdout.isTty)) args
  IO.print outcome.stdout
  IO.eprint outcome.stderr
  stdout.flush
  pure (UInt32.ofNat outcome.code)
