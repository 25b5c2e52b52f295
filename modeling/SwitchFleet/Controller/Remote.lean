import SwitchFleet.Client.Call
import SwitchFleet.Controller.ClusterApi
import SwitchFleet.Controller.Query

/-!
# The operator in a cluster

The questions of the operator as requests: verbs go to the cluster, and operations to the agents.

* `Controller.Services`: how the cluster and the agents are reached.
* `Controller.Services.answer`: the answer to a question of the operator.
-/

namespace SwitchFleet.Controller

/-- How the cluster and the agents are reached. -/
structure Services (σ : Type) where
  cluster : Http.Request → σ → Option Http.Response × σ
  agent : String → Http.Request → σ → Option Http.Response × σ
  now : σ → String

/-- The answer to a question of the operator. -/
def Services.answer {σ : Type} (services : Services σ) : (q : Query) → σ → q.Answer × σ
  | .switches v, world => ClusterApi.perform services.cluster Switch.schema v world
  | .interfaces v, world => ClusterApi.perform services.cluster SwitchInterface.schema v world
  | .client s, world => (.ok s.agentAddress, world)
  | .call address op, world => Client.perform services.agent address op world
  | .now, world => (services.now world, world)

end SwitchFleet.Controller
