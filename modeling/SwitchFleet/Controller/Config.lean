import SwitchFleet.Agent.Config
import SwitchFleet.Controller.Query

/-!
# Configuration of the operator

* `Controller.Config.ofEnvironment`: the configuration that environment variables ask for. What is
  not set, and numbers that cannot be read, have a default.
* `Controller.errorPolicy`: what is to happen to a resource after a failed attempt.
-/

namespace SwitchFleet.Controller

/-- What the operator needs to know to start. Times are in seconds. -/
structure Config where
  agentConnectTimeout : Nat
  agentRequestTimeout : Nat
  /-- How many resources of one kind are reconciled at the same time. -/
  concurrency : Nat
  requeueAfter : Nat
  healthAddress : String
deriving DecidableEq

namespace Config

/-- The configuration of an operator about which nothing is said. -/
def default : Config := ⟨4, 30, 4, 30, "0.0.0.0:8081"⟩

/-- The configuration that environment variables ask for. At least one resource is reconciled at a
time. -/
def ofEnvironment (environment : Keyed String) : Config :=
  let seconds (name : String) (otherwise : Nat) : Nat :=
    (environmentNumber? environment name UInt64.size).getD otherwise
  { agentConnectTimeout := seconds "AGENT_CONNECT_TIMEOUT_SECS" default.agentConnectTimeout
    agentRequestTimeout := seconds "AGENT_REQUEST_TIMEOUT_SECS" default.agentRequestTimeout
    concurrency := match environmentNumber? environment "CONTROLLER_CONCURRENCY" UInt16.size with
      | some n => max n 1
      | none => default.concurrency
    requeueAfter := seconds "REQUEUE_AFTER_SECS" default.requeueAfter
    healthAddress := (environment.get? "HEALTH_ADDR").getD default.healthAddress }

end Config

/-- What is to happen to a resource after a failed attempt. -/
def errorPolicy (c : Config) : Action := .requeue c.requeueAfter

end SwitchFleet.Controller
