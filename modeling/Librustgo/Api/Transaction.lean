import Librustgo.Api.AccessList
import Librustgo.Api.Session

/-!
The entry points of `internal/api` that hand a request to the enclave: the transaction
entry points `Call` and `Create`, and the setup entry points.

* `SGXVMCallParams`, `SGXVMCreateParams`, `FFIRequest`: the protobuf request `Call` and
  `Create` build; `callParams` and `createParams` are the parameter literals they write,
  the access list converted by `convertAccessList`.
* `PbReply`, `errorWithMessage`, `handleTransactionReply`: what `make_pb_request` hands
  back, and what `Call` and `Create` make of it: on an `errno`, the empty response and the
  enclave's message when it wrote one (`handleTransactionReply_of_errno`); otherwise the
  decoded result, or a fatal exit when it does not decode.
* `makePbRequest`, `call`, `create`: the two entry points, a session of the enclave
  served by the connector; `makePbRequest_state` says the host state they leave is the
  connector applied to the queries the enclave sent.
* `call_create_send_accessList`: the access list reaches the enclave whole: `Call` and
  `Create` run the enclave on a request carrying `convertAccessList accessList`, which has
  as many items as tuples, each with the tuple's address bytes and its storage keys'
  bytes, one for one and in order, so that decoding the items gives the access list back.
* `SetupRequest`, `handleInitializationRequest`: the setup entry points, which drop the
  enclave's answer; `createAttestationReport` alone checks its input first
  (`createAttestationReport_eq_ret_iff`).
-/

namespace Librustgo

/-- How a Go function ends: it returns `a`, or `log.Fatalln(msg)` stops the process. -/
inductive Outcome (α : Type) where
  | ret (a : α)
  | fatal (msg : String)
deriving DecidableEq

/-! ### Requests -/

/-- `ffi.SGXVMCallParams`. -/
structure SGXVMCallParams where
  «from» : Bytes
  «to» : Bytes
  data : Bytes
  gasLimit : UInt64
  value : Bytes
  accessList : List AccessListItem
  commit : Bool
deriving DecidableEq

/-- `ffi.SGXVMCreateParams`: as a call's, with no recipient. -/
structure SGXVMCreateParams where
  «from» : Bytes
  data : Bytes
  gasLimit : UInt64
  value : Bytes
  accessList : List AccessListItem
  commit : Bool
deriving DecidableEq

/-- `ffi.FFIRequest` with the two transaction requests; the transaction context `Ctx` is
passed through as it is. -/
inductive FFIRequest (Ctx : Type) where
  | callRequest (params : SGXVMCallParams) (context : Ctx)
  | createRequest (params : SGXVMCreateParams) (context : Ctx)

/-- The parameters `Call` writes into its request. -/
def callParams («from» «to» data value : Bytes) (accessList : AccessList) (gasLimit : UInt64)
    (commit : Bool) : SGXVMCallParams :=
  { «from» := «from», «to» := «to», data := data, gasLimit := gasLimit, value := value,
    accessList := convertAccessList accessList, commit := commit }

/-- The parameters `Create` writes into its request. -/
def createParams («from» data value : Bytes) (accessList : AccessList) (gasLimit : UInt64)
    (commit : Bool) : SGXVMCreateParams :=
  { «from» := «from», data := data, gasLimit := gasLimit, value := value,
    accessList := convertAccessList accessList, commit := commit }

/-! ### The reply -/

/-- A `C.UnmanagedVector` as `CopyAndDestroyUnmanagedVector` reads it: `none` for the
`is_none` vector, which `NewUnmanagedVector(nil)` makes, else its bytes. -/
abbrev UnmanagedVector := Option Bytes

/-- What `C.make_pb_request` hands back: the result vector, the `errno` it set (`0` for
none), and the message vector it wrote through `&errmsg`. -/
structure PbReply where
  result : UnmanagedVector
  errno : Nat
  errmsg : UnmanagedVector

/-- `ErrorWithMessage`: the enclave's message replaces the error when it wrote one, even
an empty one. -/
def errorWithMessage (err : GoError) (b : UnmanagedVector) : GoError :=
  match b with
  | none => err
  | some msg => .errorf msg

/-- What `Call` and `Create` return for a reply: on an `errno`, the empty response
(`default`) with `ErrorWithMessage`; otherwise the result decoded by `proto.Unmarshal`,
where a nil result decodes as the empty slice. -/
def handleTransactionReply {Resp : Type} [Inhabited Resp] (unmarshal : Bytes → Option Resp)
    (reply : PbReply) : Outcome (Resp × Option GoError) :=
  if reply.errno ≠ 0 then .ret (default, some (errorWithMessage (.errno reply.errno) reply.errmsg))
  else
    match unmarshal (reply.result.getD []) with
    | some response => .ret (response, none)
    | none => .fatal "Failed to decode execution result:"

/-- On an `errno`, the response is empty and the error is the enclave's message, or the
`errno` when the enclave wrote none; the process goes on. -/
lemma handleTransactionReply_of_errno {Resp : Type} [Inhabited Resp]
    (unmarshal : Bytes → Option Resp) (reply : PbReply) (h : reply.errno ≠ 0) :
    handleTransactionReply unmarshal reply =
      .ret (default, some (reply.errmsg.elim (.errno reply.errno) .errorf)) := by
  cases hm : reply.errmsg <;> simp [handleTransactionReply, errorWithMessage, h, hm]

/-! ### The transaction entry points -/

section Transaction

variable {σ Ctx Req QResp Resp : Type} [Inhabited Resp]
  (enclave : FFIRequest Ctx → Session Req QResp PbReply) (unmarshal : Bytes → Option Resp)
  (connector : Connector σ Req QResp)

/-- `C.make_pb_request` on `req`, the enclave querying `connector` from host state `s`,
followed by the reply handling `Call` and `Create` share. -/
def makePbRequest (req : FFIRequest Ctx) (s : σ) : Outcome (Resp × Option GoError) × σ :=
  let r := (enclave req).run connector s
  (handleTransactionReply unmarshal r.1, r.2.2)

/-- `Call`: a call to a contract or a transfer of value. -/
def call («from» «to» data value : Bytes) (accessList : AccessList) (gasLimit : UInt64)
    (txContext : Ctx) (commit : Bool) (s : σ) : Outcome (Resp × Option GoError) × σ :=
  makePbRequest enclave unmarshal connector
    (.callRequest (callParams «from» «to» data value accessList gasLimit commit) txContext) s

/-- `Create`: the creation of a contract. -/
def create («from» data value : Bytes) (accessList : AccessList) (gasLimit : UInt64)
    (txContext : Ctx) (commit : Bool) (s : σ) : Outcome (Resp × Option GoError) × σ :=
  makePbRequest enclave unmarshal connector
    (.createRequest (createParams «from» data value accessList gasLimit commit) txContext) s

/-- **The access list reaches the enclave whole.** `Call` and `Create` hand the enclave a
request whose parameters carry `convertAccessList accessList`, whatever the enclave then
does with it; that list has one item per tuple, the item at `i` has the 20 bytes of the
`i`-th address and one slot per storage key, the slot at `j` being the 32 bytes of the
`j`-th key; and `BytesToAddress`, `BytesToHash` read the access list back. -/
theorem call_create_send_accessList (accessList : AccessList) («from» «to» data value : Bytes)
    (gasLimit : UInt64) (txContext : Ctx) (commit : Bool) (s : σ) :
    (∃ p : SGXVMCallParams, p.accessList = convertAccessList accessList ∧
      call enclave unmarshal connector «from» «to» data value accessList gasLimit txContext
          commit s =
        makePbRequest enclave unmarshal connector (.callRequest p txContext) s) ∧
      (∃ p : SGXVMCreateParams, p.accessList = convertAccessList accessList ∧
        create enclave unmarshal connector «from» data value accessList gasLimit txContext
            commit s =
          makePbRequest enclave unmarshal connector (.createRequest p txContext) s) ∧
      (convertAccessList accessList).length = accessList.length ∧
      (∀ i (h₁ : i < (convertAccessList accessList).length) (h₂ : i < accessList.length),
        let item := (convertAccessList accessList).get ⟨i, h₁⟩
        let t := accessList.get ⟨i, h₂⟩
        item.address = t.address.bytes ∧ item.storageSlot.length = t.storageKeys.length ∧
          ∀ j (h₃ : j < item.storageSlot.length) (h₄ : j < t.storageKeys.length),
            item.storageSlot.get ⟨j, h₃⟩ = (t.storageKeys.get ⟨j, h₄⟩).bytes) ∧
      decodeAccessList (convertAccessList accessList) = accessList := by
  have hget := List.forall₂_iff_get.mp (forall₂_carries_convertAccessList accessList)
  exact ⟨⟨_, rfl, rfl⟩, ⟨_, rfl, rfl⟩, hget.1, fun i h₁ h₂ => carries_get (hget.2 i h₁ h₂),
    decodeAccessList_convertAccessList accessList⟩

/-- The host state a transaction leaves is the connector applied, in order, to the
queries the enclave sent while serving the request. -/
lemma makePbRequest_state (req : FFIRequest Ctx) (s : σ) :
    (makePbRequest enclave unmarshal connector req s).2 =
      serve connector s ((enclave req).sent connector s) :=
  (enclave req).run_state_eq_serve connector s

end Transaction

/-! ### The setup entry points -/

/-- `ffi.SetupRequest`: the requests of node setup. -/
inductive SetupRequest where
  | setupSeedNode
  | setupRegularNode
  | createAttestationReport (apiKey : Bytes)
  | nodeSeed
deriving DecidableEq

/-- The tail every setup entry point shares: the request goes to
`handle_initialization_request`, whose result and error message are dropped. The value is
the request handed over. -/
def handleInitializationRequest (req : SetupRequest) : Outcome SetupRequest := .ret req

/-- `SetupSeedNode`. -/
def setupSeedNode : Outcome SetupRequest := handleInitializationRequest .setupSeedNode

/-- `SetupRegularNode`. -/
def setupRegularNode : Outcome SetupRequest := handleInitializationRequest .setupRegularNode

/-- `RequestSeed`. -/
def requestSeed : Outcome SetupRequest := handleInitializationRequest .nodeSeed

/-- `CreateAttestationReport`: a key of another length than 32 bytes stops the process. -/
def createAttestationReport (apiKey : Bytes) : Outcome SetupRequest :=
  if apiKey.length ≠ 32 then .fatal "Wrong api key size"
  else handleInitializationRequest (.createAttestationReport apiKey)

/-- `CreateAttestationReport` hands the enclave a request exactly when the key has 32
bytes, and then the key unchanged. -/
lemma createAttestationReport_eq_ret_iff (apiKey : Bytes) (req : SetupRequest) :
    createAttestationReport apiKey = .ret req ↔
      apiKey.length = 32 ∧ req = .createAttestationReport apiKey := by
  unfold createAttestationReport handleInitializationRequest
  split <;> simp_all [eq_comm]

end Librustgo
