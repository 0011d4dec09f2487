import Librustgo.Common.Bytes

/-!
The host side of one call into the enclave. The enclave is opaque: all the host sees of it
is the queries it sends to the connector, each answered before the next is sent, and its
final reply.

* `Connector`: `types.Connector`, whose `Query` answers a request from the host state and
  may change it.
* `Session`: what the enclave does with one request, as the host sees it: a query with a
  continuation on the answer, or the final reply.
* `Session.run`: a session served by a connector: the reply, the queries in the order they
  were sent, and the host state at the end; `serve` is the connector applied to a list of
  queries in order.
* `Session.exchanges`: the queries a session sends, each with the answer it got.
* `run_state_eq_serve`: over every session, the host state a call leaves is the
  connector applied to exactly the queries the session sent, in order; nothing else
  touches the host state.
-/

namespace Librustgo

/-- `types.Connector`: `Query(request)` answered from the host state `σ`, which answering
may change. -/
abbrev Connector (σ Req Resp : Type) := Req → σ → Except GoError Resp × σ

/-- The enclave at work on one request, seen from the host: it sends a query and goes on
with the answer, or it is done and replies. -/
inductive Session (Req Resp Reply : Type) where
  | query (request : Req) (k : Except GoError Resp → Session Req Resp Reply)
  | done (reply : Reply)

variable {σ Req Resp Reply : Type}

/-- The host state after the connector has answered `requests`, in order. -/
def serve (conn : Connector σ Req Resp) (s : σ) (requests : List Req) : σ :=
  requests.foldl (fun s request => (conn request s).2) s

@[simp] lemma serve_nil (conn : Connector σ Req Resp) (s : σ) : serve conn s [] = s := rfl

@[simp] lemma serve_cons (conn : Connector σ Req Resp) (s : σ) (r : Req) (rs : List Req) :
    serve conn s (r :: rs) = serve conn (conn r s).2 rs := rfl

namespace Session

/-- A session served by `conn` from host state `s`: the enclave's reply, the queries it
sent in order, and the final host state. -/
def run (conn : Connector σ Req Resp) : Session Req Resp Reply → σ → Reply × List Req × σ
  | done reply, s => (reply, [], s)
  | query request k, s =>
    let r := (k (conn request s).1).run conn (conn request s).2
    (r.1, request :: r.2.1, r.2.2)

/-- The queries a session sends when served by `conn` from `s`. -/
def sent (conn : Connector σ Req Resp) (sess : Session Req Resp Reply) (s : σ) : List Req :=
  (sess.run conn s).2.1

/-- The queries a session sends when served by `conn` from `s`, each with the answer the
connector gave it. -/
def exchanges (conn : Connector σ Req Resp) :
    Session Req Resp Reply → σ → List (Req × Except GoError Resp)
  | done _, _ => []
  | query request k, s =>
    (request, (conn request s).1) :: (k (conn request s).1).exchanges conn (conn request s).2

/-- The exchanges are the queries sent, in order, each with its answer. -/
lemma map_fst_exchanges (conn : Connector σ Req Resp) (sess : Session Req Resp Reply) (s : σ) :
    (sess.exchanges conn s).map Prod.fst = sess.sent conn s := by
  induction sess generalizing s with
  | done reply => rfl
  | query request k ih => exact congrArg (request :: ·) (ih _ _)

/-- **The host state of a call.** The state a session leaves is the connector applied to
the queries it sent, in the order it sent them. -/
theorem run_state_eq_serve (conn : Connector σ Req Resp) (sess : Session Req Resp Reply)
    (s : σ) : (sess.run conn s).2.2 = serve conn s (sess.sent conn s) := by
  induction sess generalizing s with
  | done reply => rfl
  | query request k ih => exact ih _ _

end Session

end Librustgo
