import Enso.JsonRpc.RoundTrip

/-!
# What the client makes of what the server sends

`IncomingMessage` is untagged: a document is a `Response<Value>` if it reads as one, and
otherwise a `Notification<Value>`, whose `Value` takes every document. So reading an incoming
message never fails, and whatever is not a response in this crate's own shape is classified
as a notification, with no error.

A response in this crate's shape has an `id`, and beside it either `result` (a success) or
`code`, `message` and `data` (an error), flattened: the crate writes `Error`'s fields at the
top level, where JSON-RPC 2.0 nests them in an `error` member.

**Theorem (`IncomingMessage.deserialize_standardError`).** A JSON-RPC 2.0 error response,
`{"jsonrpc": "2.0", "id": n, "error": {"code": c, "message": m, "data": d}}` with its members
in any order, is read as a notification carrying the whole document.

**Success responses (`IncomingMessage.deserialize_success`)** are read as responses with their
id and result; **documents without an `id` (`IncomingMessage.deserialize_of_not_mem_id`)**,
JSON-RPC notifications among them, as notifications; and **every response the crate itself
writes (`IncomingMessage.deserialize_responseMessage`)** as that response, except that an
error's `data: Some(Null)` comes back `None`.

These are the readers without a recursion limit, as `serde_json::from_value` runs them; under
`serde_json::from_str` a document nested more than 127 arrays and objects deep is refused
before it is classified.
-/

namespace Enso

open Json

namespace JsonRpc

/-! ## When no response reads -/

/-- A document that does not read as a response is a notification carrying it. -/
theorem IncomingMessage.deserialize_of_response_error {j : Json}
    (h : ∀ ms, j = .obj ms → ∃ e, Response.deserialize Codec.value ms = .error e) :
    IncomingMessage.deserialize j = .ok (.notification ⟨j⟩) := by
  cases j
  case obj ms =>
    obtain ⟨e, he⟩ := h ms rfl
    simp [IncomingMessage.deserialize, he]
  all_goals rfl

/-- With none of the keys of `Success` and `Error`, no variant of `Result` reads. -/
theorem Result.deserialize_of_not_mem {ms : List (String × Json)}
    (h : ∀ p ∈ ms, p.1 ∉ ["result", "code", "message", "data"]) :
    Result.deserialize Codec.value ms = .error (.noVariantMatched "Result") := by
  have hs : Success.deserialize Codec.value ms = .error (.missingField "result") := by
    rw [Success.deserialize_of_not_mem Codec.value fun p hp he => h p hp (by simp [he])]
    rfl
  have he : Error.deserialize ms = .error (.missingField "code") := by
    rw [Error.deserialize, Fields.read_of_not_mem fun p hp hn => h p hp (by
      simp only [Error.fields, Fields.req, Fields.opt, Fields.reqOr, Fields.fmap_eq, Fields.seq_eq,
        Fields.map_ap, Fields.map_pure, Fields.seq_ap, Fields.seq_pure, Fields.names,
        List.mem_cons, List.not_mem_nil, or_false] at hn
      rcases hn with hn | hn | hn <;> simp [hn])]
    rfl
  simp [Result.deserialize, hs, he]

theorem Response.deserialize_of_not_mem {ms : List (String × Json)}
    (h : ∀ p ∈ ms, p.1 ∉ ["result", "code", "message", "data"]) :
    ∃ e, Response.deserialize Codec.value ms = .error e := by
  unfold Response.deserialize Fields.deserializeFlat
  cases hr : (Fields.req "id" Id.deserialize).readFlat ms with
  | error e => exact ⟨e, rfl⟩
  | ok a =>
    obtain ⟨id, rest⟩ := a
    exact ⟨.noVariantMatched "Result", by
      simp [Result.deserialize_of_not_mem fun p hp => h p (Fields.mem_of_readFlat hr hp)]⟩

/-! ## Error responses as JSON-RPC 2.0 writes them -/

/-- The `error` member of a JSON-RPC 2.0 error response. -/
def standardErrorObject (code : I64) (message : String) (data : Option Json) : Json :=
  .obj ([("code", ofI64 code), ("message", .str message)] ++ (data.map fun d => ("data", d)).toList)

/-- **A standard error response is read as a notification**, whatever its id, code, message
and data, and in whatever order its members come. -/
theorem IncomingMessage.deserialize_standardError (n code : I64) (message : String)
    (data : Option Json) (ms : List (String × Json))
    (h : ms.Perm [("jsonrpc", .str "2.0"), ("id", ofI64 n),
      ("error", standardErrorObject code message data)]) :
    IncomingMessage.deserialize (.obj ms) = .ok (.notification ⟨.obj ms⟩) :=
  IncomingMessage.deserialize_of_response_error fun _ hj => by
    cases hj
    exact Response.deserialize_of_not_mem fun p hp => by
      have hp' := h.mem_iff.1 hp
      simp only [List.mem_cons, List.not_mem_nil, or_false] at hp'
      rcases hp' with rfl | rfl | rfl <;> simp

/-- The error response the specification's example gives for an invalid request, with id `0`. -/
theorem IncomingMessage.deserialize_standardError_invalidRequest :
    IncomingMessage.deserialize (.obj [("jsonrpc", .str "2.0"), ("id", ofI64 id0.val),
        ("error", standardErrorObject invalidRequest "Invalid Request" none)]) =
      .ok (.notification ⟨.obj [("jsonrpc", .str "2.0"), ("id", ofI64 id0.val),
        ("error", standardErrorObject invalidRequest "Invalid Request" none)]⟩) :=
  IncomingMessage.deserialize_standardError id0.val invalidRequest "Invalid Request" none _
    (List.Perm.refl _)

/-! ## Success responses and notifications -/

/-- **A success response is read as a response** with its id and result, whatever the result
(`null` included) and in whatever order its members come. -/
theorem IncomingMessage.deserialize_success (n : I64) (result : Json) (ms : List (String × Json))
    (h : ms.Perm [("jsonrpc", .str "2.0"), ("id", ofI64 n), ("result", result)]) :
    IncomingMessage.deserialize (.obj ms) = .ok (.response ⟨⟨n⟩, .success ⟨result⟩⟩) := by
  have hp : ms.Perm (("id", Id.serialize ⟨n⟩) :: [("jsonrpc", .str "2.0"), ("result", result)]) :=
    h.trans (.swap _ _ _)
  have hr : Response.deserialize Codec.value ms = .ok ⟨⟨n⟩, .success ⟨result⟩⟩ := by
    refine Fields.deserializeFlat_req (Id.deserialize_serialize ⟨n⟩) (fun _ => ?_) (by simp) hp
    exact Result.deserialize_success_perm Codec.value Codec.value_readsThroughContent ⟨result⟩ [("jsonrpc", .str "2.0")]
      (by simp [Success.members])
  simp [IncomingMessage.deserialize, hr]

/-- A success response with id `0` and a `null` result. -/
theorem IncomingMessage.deserialize_success_null :
    IncomingMessage.deserialize (.obj [("jsonrpc", .str "2.0"), ("id", ofI64 id0.val), ("result", .null)]) =
      .ok (.response ⟨⟨id0.val⟩, .success ⟨.null⟩⟩) :=
  IncomingMessage.deserialize_success id0.val .null _ (List.Perm.refl _)

/-- **A document without an `id` member is read as a notification**: a JSON-RPC notification
`{"jsonrpc": "2.0", "method": …, "params": …}` among them. -/
theorem IncomingMessage.deserialize_of_not_mem_id {ms : List (String × Json)}
    (h : ∀ p ∈ ms, p.1 ≠ "id") :
    IncomingMessage.deserialize (.obj ms) = .ok (.notification ⟨.obj ms⟩) :=
  IncomingMessage.deserialize_of_response_error fun _ hj => by
    cases hj
    refine ⟨.missingField "id", ?_⟩
    unfold Response.deserialize Fields.deserializeFlat
    rw [Fields.readFlat_eq, Fields.read_of_not_mem fun p hp => by simpa using h p hp]
    rfl

/-- A notification of method `"update"` with no params. -/
theorem IncomingMessage.deserialize_notification_update :
    IncomingMessage.deserialize (.obj [("jsonrpc", .str "2.0"), ("method", .str "update")]) =
      .ok (.notification ⟨.obj [("jsonrpc", .str "2.0"), ("method", .str "update")]⟩) :=
  IncomingMessage.deserialize_of_not_mem_id (by simp)

/-! ## What the crate writes -/

/-- **Every response the crate writes with `Value` results is read back as that response** by
`IncomingMessage`, from its members in any order, unless it is an error with
`data: Some(Null)`. -/
theorem IncomingMessage.deserialize_responseMessage (r : Response Json)
    (hd : ∀ e, r.result = .error e → e.data ≠ some .null) (ms : List (String × Json))
    (h : ms.Perm (ResponseMessage.members Codec.value (Message.new r))) :
    IncomingMessage.deserialize (.obj ms) = .ok (.response r) := by
  obtain ⟨id, result⟩ := r
  have hp : ms.Perm (("id", id.serialize) :: ("jsonrpc", .str "2.0") :: result.members Codec.value) :=
    h.trans (.swap _ _ _)
  have hr : Response.deserialize Codec.value ms = .ok ⟨id, result⟩ := by
    refine Fields.deserializeFlat_req (Id.deserialize_serialize id) (fun _ hp => ?_) ?_ hp
    · cases result with
      | success s =>
        exact Result.deserialize_success_perm Codec.value Codec.value_readsThroughContent s [("jsonrpc", .str "2.0")]
          (by simp [Success.members]) hp
      | error e =>
        exact Result.deserialize_error_perm Codec.value ⟨_, rfl⟩ e (hd e rfl)
          [("jsonrpc", .str "2.0")] (by simp [Error.members]) (by simp) hp
    · cases result <;> simp [Result.members, Success.members, Error.members]
  simp [IncomingMessage.deserialize, hr]

/-- An error the crate writes, read by the client as a response. -/
theorem IncomingMessage.deserialize_responseMessage_error :
    IncomingMessage.deserialize (Message.serialize (Response.members Codec.value)
        (Message.newError id0 invalidRequest "Invalid Request" none)) =
      .ok (.response ⟨id0, .error ⟨invalidRequest, "Invalid Request", none⟩⟩) :=
  IncomingMessage.deserialize_responseMessage _ (fun e he => by cases he; simp) _
    (List.Perm.refl _)

end JsonRpc

end Enso
