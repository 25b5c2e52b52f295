import SwitchFleet.Http.Basic

/-!
# Health of the operator

* `Controller.respond`: the response of the operator to a request about its health.
-/

namespace SwitchFleet.Controller

/-- Whether the operator is ready, as a response. -/
def readiness (isReady : Bool) : Http.Response :=
  if isReady then .text 200 "ready" else .text 503 "starting"

/-- The response of the operator to a request. -/
def respond (isReady : Bool) (r : Http.Request) : Http.Response :=
  if r.path = "/health" then Http.get r.method (Http.healthy "switch-operator")
  else if r.path = "/ready" then Http.get r.method (readiness isReady)
  else .bare 404

end SwitchFleet.Controller
