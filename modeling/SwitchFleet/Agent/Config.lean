import SwitchFleet.Keyed
import SwitchFleet.Text.Decimal

/-!
# Configuration of an agent

* `Agent.Config.ofEnvironment`: the configuration that environment variables ask for. What is not
  set, and numbers that cannot be read, have a default.
-/

namespace SwitchFleet

/-- The number that a variable of the environment holds, if it holds one below a bound. -/
def environmentNumber? (environment : Keyed String) (name : String) (bound : Nat) : Option Nat :=
  (environment.get? name).bind (Text.bounded? bound)

namespace Agent

/-- What an agent needs to know to start. -/
structure Config where
  listenAddress : String
  storeAddress : String
  versionFile : String
  /-- The time that the device gets to follow a change, in milliseconds. -/
  settleDelay : Nat
deriving DecidableEq

namespace Config

/-- The configuration of an agent about which nothing is said. -/
def default : Config :=
  ⟨"0.0.0.0:50051", "127.0.0.1:6379", "/etc/sonic/sonic_version.yml", 1000⟩

/-- The configuration that environment variables ask for. -/
def ofEnvironment (environment : Keyed String) : Config where
  listenAddress := (environment.get? "LISTEN_ADDR").getD default.listenAddress
  storeAddress := (environment.get? "REDIS_ADDR").getD default.storeAddress
  versionFile := (environment.get? "SONIC_VERSION_FILE").getD default.versionFile
  settleDelay := (environmentNumber? environment "SETTLE_DELAY_MS" UInt64.size).getD default.settleDelay

end Config

end Agent

end SwitchFleet
