import JobRelay.Config.Basic
import JobRelay.Service.Supervisor

/-! # Components

The service runs the gateway and, unless it is switched off, the alert generator, each under
supervision.
-/

namespace JobRelay

/-- A part of the service that is supervised. -/
inductive Component where
  | gateway
  | alertGenerator
deriving DecidableEq, Repr

/-- How often a component is started again. -/
def componentRestarts : Nat := 10

/-- The restarts of components with a first and a longest pause. -/
def componentPolicy (initialPause maxPause : Nat) : RestartPolicy :=
  { initialPause, maxPause, maxRestarts := componentRestarts }

def Config.components (c : Config) : List Component :=
  .gateway :: if c.monitor.enabled then [.alertGenerator] else []

/-- How long a component is kept up that fails whenever it is started. -/
def RestartPolicy.lifetime (p : RestartPolicy) : Nat :=
  ((p.starts (List.replicate (p.maxRestarts + 1) .failed)).1.getLast?).getD 0

/-- What the service says when it has started. -/
def Config.serviceBanner (c : Config) : List String :=
  ["Daemon started", "   Gateway: " ++ c.gateway.host ++ ":" ++ toString c.gateway.port] ++
  (if c.monitor.enabled then
    ["   Alert generator every " ++ toString c.monitor.intervalSecs ++ "s"]
  else []) ++
  ["   Press Ctrl+C to stop"]

end JobRelay
