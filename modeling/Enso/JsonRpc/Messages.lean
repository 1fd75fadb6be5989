import Enso.Flatten

/-!
# JSON-RPC messages

The `messages` module of the `json-rpc` crate: its data types, its `new_*` constructors, and
how serde writes and reads them through serde_json.

**Writing.** Every type is written by serde's derive. A struct is an object of its fields in
declaration order; a `#[serde(flatten)]` field contributes its own members in its place; the
newtype `Notification(call)` is written as `call`; the `#[serde(untagged)]` enum `Result` is
written as its variant's payload. So a message is one flat object: `jsonrpc`, then `id`, then
`method`/`input` for a call, `result` for a success, and `code`/`message`/`data` for an error
(`*.members`).

**Reading.** A struct with a flattened field reads its own fields and collects the rest
(`Fields.deserializeFlat`). A flattened untagged enum sees all the members collected for it
as a map, and tries its variants in order on that map, keeping the first that reads; if none
does it is "data did not match any variant". The untagged `IncomingMessage` does the same on
the whole document; its last variant, a notification carrying any `serde_json::Value`, reads
every document.

**Payloads.** The method arguments `In` and the call result `Ret` are type parameters. A
`Codec` is what serde knows of such a type: how it is written, how it is read directly and
out of serde's `Content` buffer, and what its reader makes of a missing field (serde's
`missing_field`: `None` for an `Option`, an error otherwise). A payload type's own encoding
reads back; that is a field of the structure. Every payload sits under a flattened or an
untagged layer, so it is read out of the buffer; that it reads back from there too is a
hypothesis of the theorems that need it (`Codec.ReadsThroughContent`).

**Levels.** The readers here take no recursion limit: they are the readers as
`serde_json::from_value` runs them. `serde_json::from_str` also refuses a document that nests
more than 127 arrays and objects, whatever its message.
-/

namespace Enso

open Json

namespace JsonRpc

/-! ## Integers -/

/-- Rust's `i64`. -/
structure I64 where
  val : Int
  ge : -2 ^ 63 ≤ val
  lt : val < 2 ^ 63

/-- An `i64`: an integer in range (serde_json holds it as a `u64` or an `i64`). -/
def deI64 : Json → Except DeError I64
  | .num n => if h : -2 ^ 63 ≤ n ∧ n < 2 ^ 63 then .ok ⟨n, h.1, h.2⟩
    else .error (.invalidValue "i64")
  | _ => .error (.invalidType "i64")

/-- An `i64` is written as its integer. -/
def ofI64 (x : I64) : Json := .num x.val

@[simp] theorem deI64_ofI64 (x : I64) : deI64 (ofI64 x) = .ok x := by
  simp only [deI64, ofI64]
  rw [dif_pos ⟨x.ge, x.lt⟩]

/-! ## Payload types -/

/-- What serde knows of a payload type `α`: its encoding, its reader, its reader fed from serde's
`Content` buffer, what the reader makes of a missing field, and that the encoding reads back
through its own reader. A field under `#[serde(flatten)]` or `#[serde(untagged)]` is read from
the buffer, into which the document is first read as plain data: a map key there is a string,
which for example the `u32` keys of a `HashMap<u32, String>` do not read as. -/
structure Codec (α : Type) where
  ser : α → Json
  de : Json → Except DeError α
  deContent : Json → Except DeError α
  missing : String → Except DeError α
  de_ser : ∀ a, de (ser a) = .ok a

/-- The encoding also reads back from serde's `Content` buffer. -/
def Codec.ReadsThroughContent {α : Type} (c : Codec α) : Prop :=
  ∀ a, c.deContent (c.ser a) = .ok a

theorem Codec.ReadsThroughContent.eq {α : Type} {c : Codec α} (hc : c.ReadsThroughContent) (a : α) :
    c.deContent (c.ser a) = .ok a :=
  hc a

/-- `serde_json::Value`: every document is itself. -/
def Codec.value : Codec Json where
  ser j := j
  de j := .ok j
  deContent j := .ok j
  missing f := .error (.missingField f)
  de_ser _ := rfl

theorem Codec.value_readsThroughContent : Codec.value.ReadsThroughContent := fun _ => rfl

/-- `bool`. -/
def Codec.bool : Codec Bool where
  ser := .bool
  de := deBool
  deContent := deBool
  missing f := .error (.missingField f)
  de_ser _ := rfl

theorem Codec.bool_readsThroughContent : Codec.bool.ReadsThroughContent := fun _ => rfl

/-- `Option<α>` for an `α` never written as `null`: `None` is `null`, and a missing field is
`None`. -/
def Codec.option {α : Type} (c : Codec α) (h : ∀ a, c.ser a ≠ .null) : Codec (Option α) where
  ser := ofOption c.ser
  de := deOption c.de
  deContent := deOption c.deContent
  missing _ := .ok none
  de_ser _ := deOption_ofOption _ _ h fun a _ => c.de_ser a

theorem Codec.option_readsThroughContent {α : Type} {c : Codec α} (h : ∀ a, c.ser a ≠ .null)
    (hc : c.ReadsThroughContent) : (Codec.option c h).ReadsThroughContent :=
  fun _ => deOption_ofOption _ _ h fun a _ => hc a

/-! ## The types -/

/-- JSON-RPC protocol version; only 2.0 is supported. -/
inductive Version where
  | v1
  | v2

/-- `#[serde(rename = "1.0")]`, `#[serde(rename = "2.0")]`. -/
def Version.serialize : Version → Json
  | .v1 => .str "1.0"
  | .v2 => .str "2.0"

/-- A variant name of `Version`. -/
def Version.ofName : String → Except DeError Version
  | "1.0" => .ok .v1
  | "2.0" => .ok .v2
  | s => .error (.unknownVariant s)

/-- A unit-variant enum: the name as a string, or an object of the name alone whose value is
`null`. -/
def Version.deserialize : Json → Except DeError Version
  | .str s => Version.ofName s
  | .obj [(s, v)] => do
    let ver ← Version.ofName s
    match v with
    | .null => .ok ver
    | _ => .error (.invalidType "unit variant")
  | .obj _ => .error (.invalidValue "map with a single key")
  | _ => .error (.invalidType "string or map")

/-- An id identifying the call request. -/
structure Id where
  val : I64

def Id.serialize (id : Id) : Json := ofI64 id.val

def Id.deserialize (j : Json) : Except DeError Id := Id.mk <$> deI64 j

/-- Name of the method being called and its arguments. -/
structure MethodCall (In : Type) where
  method : String
  input : In

/-- A non-notification request: an id, and the call flattened beside it. -/
structure Request (Call : Type) where
  id : Id
  call : Call

/-- A notification request. -/
structure Notification (Call : Type) where
  call : Call

/-- Value yielded by a successful remote call. -/
structure Success (Ret : Type) where
  result : Ret

/-- Error raised on a failed remote call. -/
structure Error where
  code : I64
  message : String
  data : Option Json

/-- Result of the remote call, `#[serde(untagged)]`. -/
inductive Result (Res : Type) where
  | success (s : Success Res)
  | error (e : Error)

/-- A response to a `Request`: the id, and the result flattened beside it. -/
structure Response (Res : Type) where
  id : Id
  result : Result Res

/-- A message that can come from server to client, `#[serde(untagged)]`. -/
inductive IncomingMessage where
  | response (r : Response Json)
  | notification (n : Notification Json)

/-- All JSON-RPC messages bear the `jsonrpc` version; the payload is flattened beside it. -/
structure Message (T : Type) where
  jsonrpc : Version
  payload : T

abbrev RequestMessage (In : Type) := Message (Request (MethodCall In))
abbrev ResponseMessage (Ret : Type) := Message (Response Ret)
abbrev NotificationMessage (In : Type) := Message (Notification (MethodCall In))

/-! ## The constructors -/

/-- Wraps the payload into a JSON-RPC 2.0 message. -/
def Message.new {T : Type} (t : T) : Message T := ⟨.v2, t⟩

def Message.newRequest {In : Type} (id : Id) (method : String) (input : In) : RequestMessage In :=
  Message.new ⟨id, ⟨method, input⟩⟩

def Message.newSuccess {Ret : Type} (id : Id) (result : Ret) : ResponseMessage Ret :=
  Message.new ⟨id, .success ⟨result⟩⟩

def Message.newError {Ret : Type} (id : Id) (code : I64) (message : String) (data : Option Json) :
    ResponseMessage Ret :=
  Message.new ⟨id, .error ⟨code, message, data⟩⟩

def Message.newNotification {In : Type} (method : String) (input : In) : NotificationMessage In :=
  Message.new ⟨⟨method, input⟩⟩

/-! ## Writing: the members of the flat object -/

def MethodCall.members {In : Type} (c : Codec In) (m : MethodCall In) : List (String × Json) :=
  [("method", .str m.method), ("input", c.ser m.input)]

def Request.members {Call : Type} (call : Call → List (String × Json)) (r : Request Call) :
    List (String × Json) :=
  ("id", r.id.serialize) :: call r.call

/-- The newtype is written as its call. -/
def Notification.members {Call : Type} (call : Call → List (String × Json)) (n : Notification Call) :
    List (String × Json) :=
  call n.call

def Success.members {Ret : Type} (c : Codec Ret) (s : Success Ret) : List (String × Json) :=
  [("result", c.ser s.result)]

/-- `data` is written even when it is `None`, as `null`. -/
def Error.members (e : Error) : List (String × Json) :=
  [("code", ofI64 e.code), ("message", .str e.message), ("data", ofOption (fun j => j) e.data)]

/-- Untagged: the variant's payload alone. -/
def Result.members {Ret : Type} (c : Codec Ret) : Result Ret → List (String × Json)
  | .success s => s.members c
  | .error e => e.members

def Response.members {Ret : Type} (c : Codec Ret) (r : Response Ret) : List (String × Json) :=
  ("id", r.id.serialize) :: r.result.members c

def Message.members {T : Type} (payload : T → List (String × Json)) (m : Message T) :
    List (String × Json) :=
  ("jsonrpc", m.jsonrpc.serialize) :: payload m.payload

/-- `serde_json::to_string`/`to_value` of a message: one object. -/
def Message.serialize {T : Type} (payload : T → List (String × Json)) (m : Message T) : Json :=
  .obj (m.members payload)

def RequestMessage.members {In : Type} (c : Codec In) : RequestMessage In → List (String × Json) :=
  Message.members (Request.members (MethodCall.members c))

def ResponseMessage.members {Ret : Type} (c : Codec Ret) :
    ResponseMessage Ret → List (String × Json) :=
  Message.members (Response.members c)

def NotificationMessage.members {In : Type} (c : Codec In) :
    NotificationMessage In → List (String × Json) :=
  Message.members (Notification.members (MethodCall.members c))

/-! ## Reading -/

/-- The call's fields, read from the members flattened into it (`FlatStructAccess` offers
only the members of its keys, and the struct's visitor would skip the others anyway), out of
serde's `Content` buffer. -/
def MethodCall.fields {In : Type} (c : Codec In) : Fields (MethodCall In) :=
  MethodCall.mk <$> Fields.req "method" deString <*>
    Fields.reqOr "input" c.deContent (c.missing "input")

def MethodCall.deserialize {In : Type} (c : Codec In) (ms : List (String × Json)) :
    Except DeError (MethodCall In) :=
  (MethodCall.fields c).read ms

def Request.deserialize {Call : Type} (deCall : List (String × Json) → Except DeError Call) :
    List (String × Json) → Except DeError (Request Call) :=
  Fields.deserializeFlat (Fields.req "id" Id.deserialize) deCall Request.mk

/-- `visit_newtype_struct` over the same members. -/
def Notification.deserialize {Call : Type} (deCall : List (String × Json) → Except DeError Call)
    (ms : List (String × Json)) : Except DeError (Notification Call) :=
  Notification.mk <$> deCall ms

/-- The result, read out of serde's `Content` buffer: `Result` is untagged and flattened. -/
def Success.fields {Ret : Type} (c : Codec Ret) : Fields (Success Ret) :=
  Success.mk <$> Fields.reqOr "result" c.deContent (c.missing "result")

def Success.deserialize {Ret : Type} (c : Codec Ret) (ms : List (String × Json)) :
    Except DeError (Success Ret) :=
  (Success.fields c).read ms

def Error.fields : Fields Error :=
  Error.mk <$> Fields.req "code" deI64 <*> Fields.req "message" deString <*>
    Fields.opt "data" .ok

def Error.deserialize (ms : List (String × Json)) : Except DeError Error :=
  Error.fields.read ms

/-- Untagged: `Success` if the members read as one, else `Error`, else no variant. -/
def Result.deserialize {Ret : Type} (c : Codec Ret) (ms : List (String × Json)) :
    Except DeError (Result Ret) :=
  match Success.deserialize c ms with
  | .ok s => .ok (.success s)
  | .error _ => match Error.deserialize ms with
    | .ok e => .ok (.error e)
    | .error _ => .error (.noVariantMatched "Result")

def Response.deserialize {Ret : Type} (c : Codec Ret) :
    List (String × Json) → Except DeError (Response Ret) :=
  Fields.deserializeFlat (Fields.req "id" Id.deserialize) (Result.deserialize c) Response.mk

/-- A message: an object whose `jsonrpc` member is read, the rest going to the payload. -/
def Message.deserialize {T : Type} (deT : List (String × Json) → Except DeError T) :
    Json → Except DeError (Message T)
  | .obj ms => Fields.deserializeFlat (Fields.req "jsonrpc" Version.deserialize) deT Message.mk ms
  | _ => .error (.invalidType "struct Message")

def RequestMessage.deserialize {In : Type} (c : Codec In) : Json → Except DeError (RequestMessage In) :=
  Message.deserialize (Request.deserialize (MethodCall.deserialize c))

def ResponseMessage.deserialize {Ret : Type} (c : Codec Ret) :
    Json → Except DeError (ResponseMessage Ret) :=
  Message.deserialize (Response.deserialize c)

def NotificationMessage.deserialize {In : Type} (c : Codec In) :
    Json → Except DeError (NotificationMessage In) :=
  Message.deserialize (Notification.deserialize (MethodCall.deserialize c))

/-- Untagged: a response if the document reads as one, else a notification carrying the
document. -/
def IncomingMessage.deserialize (j : Json) : Except DeError IncomingMessage :=
  let response := match j with
    | .obj ms => Response.deserialize Codec.value ms
    | _ => .error (.invalidType "struct Response")
  match response with
  | .ok r => .ok (.response r)
  | .error _ => .ok (.notification ⟨j⟩)

end JsonRpc

end Enso
