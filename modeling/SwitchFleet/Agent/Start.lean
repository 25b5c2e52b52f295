import SwitchFleet.Agent.Config
import SwitchFleet.Store.Pool
import SwitchFleet.Text.Cut
import SwitchFleet.Text.Decimal

/-!
# Starting an agent

An agent looks for its device store before it listens for requests.

* `Agent.canListen`: whether an address can be listened at.
* `Agent.start`: the program that starts an agent.
-/

namespace SwitchFleet.Agent

/-- Whether a text is the name of this machine or an address of its own. -/
def isOwnHost (host : List Char) : Bool :=
  ["localhost", "0.0.0.0", "[::]", "[::1]"].contains (String.ofList host) ||
    "127.".toList.isPrefixOf host && (host.all fun c => c.isDigit || c == '.')

/-- Whether an address can be listened at: a host of this machine, a colon, and the number of a
port. -/
def canListen (address : String) : Bool :=
  match Text.cutAt ':' address.toList.reverse with
  | none => false
  | some (port, host) =>
    isOwnHost host.reverse && (Text.bounded? UInt16.size (String.ofList port.reverse)).isSome

/-- Starts an agent. -/
def start (c : Config) : Pool.Run (Except AgentError Unit) := do
  match ← Pool.probe Database.configurationName with
  | .error e => return .error (.store e)
  | .ok () =>
    if canListen c.listenAddress then return .ok ()
    else return .error (.listener "invalid socket address")

end SwitchFleet.Agent
