/-
  Starting up — from a configuration to a link that is up, an output that is
  prepared and the options of a session.

  * `watchOf` is the link driver of a configuration;
  * `connectLink` supervises a driver and waits for its link;
  * `configureOutput` prepares the output, and `sessionOptions` checks what the
    session is opened with.
-/
import SignalActuator.Failure
import SignalActuator.Link.Timeline
import SignalActuator.Link.Watch

namespace SignalActuator.Provider

open Link (Driver Timeline Waited Watch Activity)

def watchOf {σ : Type} (c : Config) (host : σ) : Except Failure (Watch σ) := do
  let interface ← c.linkInterface.mapError .config
  return { interface, template := c.link.associateCommand, host }

/-- What became of a link that was waited for: the verdict, the driver and the
    log records. -/
structure LinkWait (δ : Type) where
  outcome : Waited (Except Failure Link.Status)
  driver : δ
  log : List Log.Record

def linkSpan (c : Config) : Log.Span where
  name := "link"
  component := .lifecycle
  fields := [("max_retries", .number c.link.maxRetries.toNat)]

/-- The record as it is written while a link is brought up.  The supervisor works
    on its own; only who waits for it is inside of the span. -/
def waiting (c : Config) (r : Log.Record) : Log.Record :=
  if r = Link.waitingRecord then r.within (linkSpan c) else r

/-- Supervises a driver and waits for its link, for at most `span` milliseconds. -/
def connectLink {δ : Type} (dr : Driver δ) (driver : δ) (c : Config) (env : Host.Environment)
    (span : Nat) : LinkWait δ :=
  match c.credentials env with
  | .error e => ⟨.done (.error (.config e)), driver, []⟩
  | .ok credentials =>
    let (launched, log) := Link.Supervisor.launch dr driver credentials c.retryPolicy
    let log := log.map (·.within (linkSpan c))
    match launched with
    | .error e => ⟨.done (.error (.link e)), driver, log⟩
    | .ok s =>
      let t : Timeline δ := ⟨0, s⟩
      let (verdict, t, acts) := t.awaitConnected dr c.link.pollIntervalMs.toNat span
      let log := log ++ (Activity.records acts).map (waiting c)
      match verdict with
      | .timeout => ⟨.timeout, t.supervisor.driver, log⟩
      | .done (.error e) => ⟨.done (.error (.link e)), t.supervisor.driver, log⟩
      | .done (.ok ()) =>
        ⟨.done (.ok t.supervisor.status), t.supervisor.driver,
          log ++ [(Log.record .info .lifecycle "Link ready" []).within (linkSpan c)]⟩

def configureOutput {σ : Type} (disk : Host.Disk σ) (c : Config) (s : σ) :
    Actuation.Run σ (Except Failure Output.Line) :=
  let r := Output.Line.configure disk c.output.backend c.output.sysfsRoot c.output.pin s
  ⟨r.value.mapError .output, r.state, r.effects⟩

def sessionOptions (c : Config) (env : Host.Environment) :
    Except Failure Bus.SessionOptions := do
  (Locator.validate c.bus.locator).mapError .locator
  (c.session env).mapError .config

end SignalActuator.Provider
