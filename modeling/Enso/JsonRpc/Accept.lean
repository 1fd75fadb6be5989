import Enso.JsonRpc.RoundTrip

/-!
# What the message readers accept besides

Reading back what they write is not all the readers do. What else they take, and refuse:

**Scalars.** `Version` reads exactly its two names, as a string or as an object of the name
alone over `null` (`Version.deserialize_eq_ok`); an `Id` reads exactly the integers in `i64`
range (`Id.deserialize_eq_ok_iff`).

**Repeated keys (`Message.deserialize_duplicate`).** A second `jsonrpc` member of a message,
or a second `id` of a request or a response, is refused with `duplicate_field`.

**Requests as notifications (`NotificationMessage.deserialize_request`).** The notification
reader takes every request and drops its id: it cannot tell a request from a notification.

**Errors as successes (`ResponseMessage.deserialize_error_of_missing`).** When the result type
makes something of a missing field (an `Option`: `None`), every error response reads as a
success carrying it.
-/

namespace Enso

open Json

namespace JsonRpc

variable {In Ret : Type}

/-! ## Scalars -/

theorem Version.ofName_eq_ok {s : String} {v : Version} :
    Version.ofName s = .ok v ↔ v.serialize = .str s := by
  unfold Version.ofName
  split <;> cases v <;> simp_all [Version.serialize, eq_comm]

/-- **`Version` reads exactly its names**: `"1.0"` and `"2.0"`, or `{"1.0": null}` and
`{"2.0": null}`. -/
theorem Version.deserialize_eq_ok {j : Json} {v : Version} :
    Version.deserialize j = .ok v ↔
      ∃ s, v.serialize = .str s ∧ (j = .str s ∨ j = .obj [(s, .null)]) := by
  simp only [← Version.ofName_eq_ok]
  constructor
  · intro h
    unfold Version.deserialize at h
    split at h
    · exact ⟨_, h, .inl rfl⟩
    · next s w =>
      cases hs : Version.ofName s with
      | error e => simp [hs] at h
      | ok ver =>
        cases w <;> simp [hs] at h
        exact ⟨s, h ▸ hs, .inr rfl⟩
    · cases h
    · cases h
  · rintro ⟨s, hs, rfl | rfl⟩
    · exact hs
    · simp [Version.deserialize, hs]

theorem deI64_eq_ok {j : Json} {x : I64} : deI64 j = .ok x ↔ j = ofI64 x := by
  refine ⟨fun h => ?_, fun h => h ▸ deI64_ofI64 x⟩
  cases j with
  | num n =>
    simp only [deI64] at h
    by_cases hn : -2 ^ 63 ≤ n ∧ n < 2 ^ 63
    · rw [dif_pos hn] at h
      cases h
      rfl
    · rw [dif_neg hn] at h
      cases h
  | _ => cases h

/-- **An `Id` reads exactly the integers in `i64` range**, each as itself. -/
theorem Id.deserialize_eq_ok_iff {j : Json} {id : Id} : Id.deserialize j = .ok id ↔ j = id.serialize := by
  rw [Id.serialize, ← deI64_eq_ok]
  obtain ⟨x⟩ := id
  cases h : deI64 j <;> simp [Id.deserialize, h]

/-! ## Repeated keys -/

/-- **A repeated key of a message's own fields is refused**: `jsonrpc` of every message, `id`
of requests and responses, once the first member of the key has been read. -/
theorem Message.deserialize_duplicate :
    (∀ {T : Type} (deT : List (String × Json) → Except DeError T) {v₁ : Json} {ver : Version}
        (v₂ : Json) (l₁ l₂ l₃ : List (String × Json)), Version.deserialize v₁ = .ok ver →
      (∀ p ∈ l₁ ++ l₂, p.1 ≠ "jsonrpc") →
      Message.deserialize deT (.obj (l₁ ++ ("jsonrpc", v₁) :: (l₂ ++ ("jsonrpc", v₂) :: l₃))) =
        .error (.duplicateField "jsonrpc")) ∧
    (∀ {Call : Type} (deCall : List (String × Json) → Except DeError Call) {v₁ : Json} {id : Id}
        (v₂ : Json) (l₁ l₂ l₃ : List (String × Json)), Id.deserialize v₁ = .ok id →
      (∀ p ∈ l₁ ++ l₂, p.1 ≠ "id") →
      Request.deserialize deCall (l₁ ++ ("id", v₁) :: (l₂ ++ ("id", v₂) :: l₃)) =
        .error (.duplicateField "id")) ∧
    (∀ {Ret : Type} (c : Codec Ret) {v₁ : Json} {id : Id} (v₂ : Json)
        (l₁ l₂ l₃ : List (String × Json)),
      Id.deserialize v₁ = .ok id → (∀ p ∈ l₁ ++ l₂, p.1 ≠ "id") →
      Response.deserialize c (l₁ ++ ("id", v₁) :: (l₂ ++ ("id", v₂) :: l₃)) =
        .error (.duplicateField "id")) :=
  ⟨fun deT _ _ _ _ _ l₃ hv h => Fields.deserializeFlat_req_duplicate hv deT Message.mk h l₃,
    fun deCall _ _ _ _ _ l₃ hv h => Fields.deserializeFlat_req_duplicate hv deCall Request.mk h l₃,
    fun c _ _ _ _ _ l₃ hv h =>
      Fields.deserializeFlat_req_duplicate hv (Result.deserialize c) Response.mk h l₃⟩

/-- A message with two `jsonrpc` members, a request with two ids, a response with two ids. -/
theorem Message.deserialize_duplicate_twice :
    Message.deserialize (Request.deserialize (MethodCall.deserialize Codec.value))
        (.obj [("jsonrpc", .str "2.0"), ("jsonrpc", .str "2.0")]) =
      .error (.duplicateField "jsonrpc") ∧
    Request.deserialize (MethodCall.deserialize Codec.value)
        [("id", id0.serialize), ("method", .str "m"), ("id", id0.serialize)] =
      .error (.duplicateField "id") ∧
    Response.deserialize Codec.value [("id", id0.serialize), ("id", id0.serialize)] =
      .error (.duplicateField "id") :=
  ⟨Message.deserialize_duplicate.1 _ (.str "2.0") [] [] [] rfl (by simp),
    Message.deserialize_duplicate.2.1 _ id0.serialize [] [("method", .str "m")] []
      (Id.deserialize_serialize id0) (by simp),
    Message.deserialize_duplicate.2.2 Codec.value id0.serialize [] [] []
      (Id.deserialize_serialize id0) (by simp)⟩

/-! ## Readers of one type taking messages of another -/

/-- **The notification reader takes every request**, with its members in any order, as the
notification of its method and input: the id is dropped. -/
theorem NotificationMessage.deserialize_request (c : Codec In) (hc : c.ReadsThroughContent)
    (id : Id) (method : String)
    (input : In) (ms : List (String × Json))
    (h : ms.Perm (RequestMessage.members c (Message.newRequest id method input))) :
    NotificationMessage.deserialize c (.obj ms) = .ok (Message.newNotification method input) :=
  @Message.deserialize_new_perm (Notification (MethodCall In))
    (Notification.deserialize (MethodCall.deserialize c))
    (fun _ => Request.members (MethodCall.members c) ⟨id, ⟨method, input⟩⟩) ⟨⟨method, input⟩⟩
    (fun _ hp => by
      simp [Notification.deserialize, MethodCall.deserialize_perm c hc ⟨method, input⟩
        [("id", id.serialize)] (by simp [MethodCall.members]) hp])
    (by simp [Request.members, MethodCall.members]) ms h

theorem NotificationMessage.deserialize_request_value :
    NotificationMessage.deserialize Codec.value
        (.obj [("jsonrpc", .str "2.0"), ("id", id0.serialize), ("method", .str "m"), ("input", .null)]) =
      .ok (Message.newNotification "m" .null) :=
  NotificationMessage.deserialize_request Codec.value Codec.value_readsThroughContent id0 "m" .null _
    (List.Perm.refl _)

/-- **Every error response reads as a success** when the result type makes something of a
missing field (`None`, for an `Option`), whatever the error's code, message and data. -/
theorem ResponseMessage.deserialize_error_of_missing (c : Codec Ret) {r : Ret}
    (hmiss : c.missing "result" = .ok r) (id : Id) (code : I64) (message : String)
    (data : Option Json) (ms : List (String × Json))
    (h : ms.Perm (ResponseMessage.members c (Message.newError id code message data))) :
    ResponseMessage.deserialize c (.obj ms) = .ok (Message.newSuccess id r) :=
  @Message.deserialize_new_perm (Response Ret) (Response.deserialize c)
    (fun _ => Response.members c ⟨id, .error ⟨code, message, data⟩⟩) ⟨id, .success ⟨r⟩⟩
    (fun _ hp => Fields.deserializeFlat_req (Id.deserialize_serialize id)
      (fun ms' hp' => by
        have hs : Success.deserialize c ms' = .ok ⟨r⟩ := by
          rw [Success.deserialize_of_not_mem c fun p hq => ?_, hmiss]
          · rfl
          · have := hp'.mem_iff.1 hq
            simp only [Result.members, Error.members, List.mem_cons, List.mem_singleton,
              List.not_mem_nil, or_false] at this
            rcases this with rfl | rfl | rfl <;> simp
        simp [Result.deserialize, hs])
      (by simp [Result.members, Error.members]) hp)
    (by simp [Response.members, Result.members, Error.members]) ms h

theorem ResponseMessage.deserialize_error_of_missing_optionBool :
    ResponseMessage.deserialize Codec.optionBool
        (.obj [("jsonrpc", .str "2.0"), ("id", id0.serialize), ("code", ofI64 invalidRequest),
          ("message", .str ""), ("data", .null)]) =
      .ok (Message.newSuccess id0 none) :=
  ResponseMessage.deserialize_error_of_missing Codec.optionBool rfl id0 invalidRequest "" none _
    (List.Perm.refl _)

end JsonRpc

end Enso
