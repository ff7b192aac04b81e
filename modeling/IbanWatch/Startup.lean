import IbanWatch.Client
import IbanWatch.Config.Load
import IbanWatch.EnvFile.Assignment

/-!
# Starting

A watch starts in four steps: variables are read from a file next to the program, the configuration
is put together, it is checked, and the client of the stream is made.  A bad line in the file of
variables is never an error of its own.  A start is unwound by a value that no variable can have,
and by a topic that cannot be asked for.  The file of variables is any row of bytes, while the files
of settings are texts.

## Main definitions

* `StartupFailure`, with `StartupFailure.message` — why a watch does not start.
* `fullEnvironment` — the environment with the variables of the file.
* `startWith` — how a start ends when something was loaded.
* `start` — how a start ends.

## References

The reference's `bootstrap::run`, up to where the loop would begin, and its `StartupError`; its
specification, 10.1 and 10.4.
-/

namespace IbanWatch

open Text

/-- Why a watch does not start, the reference's `StartupError`. -/
inductive StartupFailure where
  /-- There is no configuration to start with. -/
  | config (fault : Config.Fault)
  /-- There is no client for the stream. -/
  | client (refusal : Client.Refusal)
  deriving Repr

/-- The failure in words. -/
def StartupFailure.message : StartupFailure → String
  | .config fault => fault.message
  | .client refusal => refusal.message

/-- The environment with the variables of a file, if there is one. -/
def fullEnvironment (file : Option Bytes) (env : Environment) : Ending Environment :=
  match file with
  | none => .returned env
  | some content => EnvFile.extend env content

/-- How a start ends when this was loaded: what cannot be loaded is not started, and with what can
be a client is made. -/
def startWith : Except Config.Fault Config → Ending (Except StartupFailure Config)
  | .error fault => .returned (.error (.config fault))
  | .ok config =>
    match Client.connect config.stream with
    | .unwound => .unwound
    | .returned (.error refusal) => .returned (.error (.client refusal))
    | .returned (.ok ()) => .returned (.ok config)

/-- How a start ends, where `d` holds the files of settings and `file` is the file of variables; the
reference's `bootstrap::run`. -/
def start (d : Directory) (file : Option Bytes) (env : Environment) :
    Ending (Except StartupFailure Config) :=
  (fullEnvironment file env).andThen fun env => startWith (Config.load d env)

end IbanWatch
