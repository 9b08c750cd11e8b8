import PathJail.Command.Run

/-!
# The command on a real machine

Everything that the command decides is decided elsewhere; here its arguments come in, its
configuration is read, its dialogue is held with the machine, and its outputs go out.

The runtime can read a file and find out where a path leads. It has no call for the rest of what a
session asks of its host, so the rest is answered with the number for a missing call: paths are
resolved and aliases shown, and listing a directory is refused the way a host would refuse it.

* `Machine.answer` — what the machine answers to a call.
* `Dialogue.hold`  — a dialogue with the machine.
-/

namespace PathJail

namespace Machine

/-- The system's number of a failure. The runtime hands some of them on negated, in 32 bits. -/
def number (code : UInt32) : Int :=
  let n := code.toNat
  Int.ofNat (if n < UInt32.size / 2 then n else UInt32.size - n)

/-- A failure of the runtime as one of the host. -/
def failure : IO.Error → HostError
  | .alreadyExists _ code _ | .otherError code _ | .resourceBusy code _ | .resourceVanished code _
  | .unsupportedOperation code _ | .hardwareFault code _ | .unsatisfiedConstraints code _
  | .illegalOperation code _ | .protocolError code _ | .timeExpired code _ | .interrupted _ code _
  | .noFileOrDirectory _ code _ | .invalidArgument _ code _ | .permissionDenied _ code _
  | .resourceExhausted _ code _ | .inappropriateType _ code _ | .noSuchThing _ code _ =>
    .code (number code)
  | .unexpectedEof => .text "unexpected end of file".toList
  | .userError message => .text message.toList

/-- The result of an action, or how it failed. -/
def attempt {α : Type} (action : IO α) : IO (Except HostError α) := do
  match ← action.toBaseIO with
  | .ok value => return .ok value
  | .error e => return .error (failure e)

/-- The contents of a file. -/
def contents (path : Text) : IO (Except HostError Text) :=
  attempt (String.toList <$> IO.FS.readFile (String.ofList path))

/-- Whether a path leads somewhere. -/
def reach (path : Text) : IO (Except HostError Unit) :=
  attempt (discard (IO.FS.realPath (String.ofList path)))

/-- What the machine answers to a call. A path leads to a directory when it leads on from there. -/
def answer : (call : Call) → IO (Except HostError call.Reply)
  | .chdir path => do
    match ← reach path, ← reach (path ++ ['/', '.']) with
    | .ok (), .error _ => return .error (.code Errno.notDirectory)
    | reached, _ => return reached
  | .openFile path => reach path
  | _ => return .error (.code Errno.notImplemented)

end Machine

/-- Holds a dialogue with the machine. No interrupt is ever raised, and no log is kept. -/
def Dialogue.hold {α : Type} : Dialogue α → IO α
  | .done value => return value
  | .ask call next => do (next (← Machine.answer call)).hold
  | .poll next => (next false).hold
  | .note _ next => next.hold

namespace Command

/-- What becomes of arguments. -/
def execute (args : List Text) : IO Outcome := do
  match Invocation.parse args with
  | .error refusal => return refusal.outcome
  | .ok invocation =>
    let document ← match invocation.document? with
      | some path => Machine.contents path
      | none => pure (.ok [])
    (invocation.run document).hold

end Command

end PathJail

/-- Carries out the command that the arguments ask for. -/
def main (args : List String) : IO UInt32 := do
  let outcome ← PathJail.Command.execute (args.map String.toList)
  (← IO.getStdout).putStr (String.ofList outcome.stdout)
  (← IO.getStderr).putStr (String.ofList outcome.stderr)
  return outcome.code.toUInt32
