/-
  Programs — running another program and how it ends.

  * `ExitStatus.describe` says how a program ended;
  * `Programs` is what a caller may ask of programs, with the state of the host
    as a parameter, so that any pattern of results is a host.
-/
import SignalActuator.Host.Fault

namespace SignalActuator.Host

/-- The names of the signals of Linux, in order from 1. -/
def signalNames : Array String :=
  #["SIGHUP", "SIGINT", "SIGQUIT", "SIGILL", "SIGTRAP", "SIGABRT", "SIGBUS", "SIGFPE", "SIGKILL",
    "SIGUSR1", "SIGSEGV", "SIGUSR2", "SIGPIPE", "SIGALRM", "SIGTERM", "SIGSTKFLT", "SIGCHLD",
    "SIGCONT", "SIGSTOP", "SIGTSTP", "SIGTTIN", "SIGTTOU", "SIGURG", "SIGXCPU", "SIGXFSZ",
    "SIGVTALRM", "SIGPROF", "SIGWINCH", "SIGIO", "SIGPWR", "SIGSYS"]

inductive ExitStatus where
  | exited (code : Nat)
  | signalled (signal : Nat)
  deriving DecidableEq, Repr

namespace ExitStatus

def success (s : ExitStatus) : Bool :=
  s == .exited 0

def describe : ExitStatus → String
  | .exited code => "exit status: " ++ toString code
  | .signalled n => "signal: " ++ toString n ++
      (if 0 < n then ((signalNames[n - 1]?).map fun s => " (" ++ s ++ ")").getD "" else "")

end ExitStatus

/-- What may be asked of the programs of a host with states `σ`: to run one with
    arguments and no input, to its end. -/
structure Programs (σ : Type) where
  run : σ → (program : String) → (arguments : List String) → Except Fault ExitStatus × σ

end SignalActuator.Host
