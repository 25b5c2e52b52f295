import SwitchFleet.Http.Basic

/-!
# Prepared exchanges

A service that answers every request with the next one of a list of prepared responses, and that
cannot be reached once they are used up.

* `Http.Exchange`: the responses that are left, and the requests so far.
* `Http.Exchange.send`: a request to the service.
-/

namespace SwitchFleet.Http

/-- A service with prepared responses. -/
structure Exchange where
  responses : List Response
  /-- The requests so far, last one first. -/
  requests : List Request
deriving DecidableEq

namespace Exchange

/-- A service that has not been asked yet. -/
def start (responses : List Response) : Exchange := ⟨responses, []⟩

/-- The response to a request, if there is one, and the service after it. -/
def send (r : Request) (x : Exchange) : Option Response × Exchange :=
  (x.responses.head?, ⟨x.responses.tail, r :: x.requests⟩)

end Exchange

end SwitchFleet.Http
