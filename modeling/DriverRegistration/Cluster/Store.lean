import DriverRegistration.Cluster.NodeObject
import DriverRegistration.Cluster.Refusal

/-!
# Node records behind the cluster's interface

`store` makes a node store of a `Service`, which answers requests with node objects or refusals.  A
service is made of a `Transport`, which carries requests and brings back responses as they are on
the wire (`Transport.service`).
-/

namespace DriverRegistration.Cluster

variable {σ : Type}

/-- What answers requests with node objects, over states of type `σ`. -/
abbrev Service (σ : Type) := Request → σ → Except Refusal Json.Value × σ

/-- Make a request, if it can be made. -/
def Service.send (service : Service σ) (request : Except RequestFault Request) (s : σ) :
    Except Refusal Json.Value × σ :=
  match request with
  | .ok r => service r s
  | .error f => (.error (.request f), s)

/-- What an answer about a node means. -/
def meaning (node : String) (answer : Except Refusal Json.Value) : Except StoreError NodeRecord :=
  match answer with
  | .ok v => .ok (NodeObject.record v)
  | .error r => .error (r.storeError node)

/-- A service as a node store. -/
def store (service : Service σ) : NodeStore σ where
  get name s :=
    let (answer, s) := service.send (Request.read name) s
    (meaning name answer, s)
  update r s :=
    let (answer, s) := service.send (Request.write r) s
    (meaning r.name answer, s)

/-! ## Responses -/

/-- A response on the wire. -/
structure Response where
  status : Nat
  body : String
  deriving DecidableEq, Repr

/-- The node object or the refusal in a response: a status from 400 to 599 refuses. -/
def Response.answer (r : Response) : Except Refusal Json.Value :=
  if 400 ≤ r.status && r.status < 600 then
    .error (.refused ((ErrorDocument.decode? r.body).getD (.ofBody r.status r.body)))
  else (NodeObject.decode r.body).mapError .unreadable

/-- What carries requests; a request that is not carried is answered with the reason. -/
abbrev Transport (σ : Type) := Request → σ → Except String Response × σ

/-- A transport as a service. -/
def Transport.service (carry : Transport σ) : Service σ := fun request s =>
  match carry request s with
  | (.ok r, s) => (r.answer, s)
  | (.error reason, s) => (.error (.service reason), s)

/-- A transport with its answers laid down, and the requests it was given, the latest first. -/
structure Script where
  answers : List (Except String Response)
  requests : List Request := []

/-- Give the next answer that was laid down. -/
def Script.carry : Transport Script := fun request s =>
  match s.answers with
  | [] => (.error "no more responses", { s with requests := request :: s.requests })
  | a :: rest => (a, ⟨rest, request :: s.requests⟩)

end DriverRegistration.Cluster
