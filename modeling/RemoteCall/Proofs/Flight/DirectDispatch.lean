import RemoteCall.Proofs.Endpoint.Dispatch
import RemoteCall.Proofs.Flight.Launch
import RemoteCall.Proofs.Json.RoundTrip
import RemoteCall.Proofs.Response.Reports

/-!
# A remote call is a direct dispatch

If nothing comes between a client and a server, then a call has the outcome of dispatching its
method on a fresh object of the server's registry: a value is the result of the call, an error is
learned with its code, its class and its message, and a call without a reply fails in a way that
tells that its work has not begun.  Names and classes arrive as headers carry them.
-/

namespace RemoteCall

/-- What a caller learns of the error of a remote method. -/
def RemoteError.failure (error : RemoteError) : Failure where
  kind := .possiblyProcessed
  message := "Throwable class: " ++ FieldValue.cleaned error.className ++ ". " ++
    ("Throwable message: " ++
      (if error.message.isEmpty then Failure.emptyMessage else error.message) ++ ". ")
  code := error.code
  remoteClass := (some (FieldValue.cleaned error.className)).filter (!·.isEmpty)
  cause := none

namespace Flight

variable {client : Client} {flight : Flight} {cache : Route.Cache} {request : OutboundRequest}

/-- A call is given a response with its body. -/
def delivery (response : Response) : List Event :=
  [.answered response.head, .received (.ok response.body)]

section Deliveries

theorem resultOf_success (codec : Codec) {result : Bytes} (written : result ≠ []) :
    resultOf codec (Response.success result).head.fields result = codec.decode result := by
  rw [resultOf, if_neg (by simpa using written), if_pos]
  exact Response.success_has_serializedContent result

variable (standard : client.handler = .standard) (sending : flight.stage = .sending request)

include standard sending

theorem run_delivery_throwable (report : Response.Report) (certainty : Certainty) :
    (run client flight cache (delivery (Response.throwable report certainty))).1.stage =
      .settled (.error (report.failure certainty)) := by
  rw [delivery, run_cons, advance_answered sending standard,
    interpret_throwable (responseKind?_throwable report certainty), run_cons,
    advance_received rfl, afterBody_throwable, run_nil, settle_stage]
  exact congrArg (Stage.settled ∘ Except.error) (Response.ofReport_throwable report certainty)

theorem run_delivery_success (result : Bytes) :
    run client flight cache (delivery (Response.success result)) =
      afterContent client { flight with stage := .reading (Response.success result).head .success }
        cache (Response.success result).head .success result := by
  have unasked : ¬((Response.success result).head.status.isServerError ∨
      ResponseType.success = .retry) := by
    rw [show (Response.success result).head.status = .ok from Response.success_status result]
    decide
  rw [delivery, run_cons, advance_answered sending standard,
    interpret_content (responseKind?_success result) (by decide) unasked, run_cons,
    advance_received rfl, afterBody_content (by decide), Response.success_body, run_nil]

/-- A result that the client's codec decodes ends a call with success. -/
theorem run_delivery_decodable {result : Bytes} {value : Json.Value} (written : result ≠ [])
    (decoded : client.codec.decode result = .ok value) :
    (run client flight cache (delivery (Response.success result))).1.stage =
      .settled (.ok value) := by
  rw [run_delivery_success standard sending,
    afterContent_value ((resultOf_success client.codec written).trans decoded)
      (Response.success_status result) (by decide), settle_stage]

theorem run_delivery_undecodable {result : Bytes} {fault : CodecFault} (written : result ≠ [])
    (undecodable : client.codec.decode result = .error fault) :
    (run client flight cache (delivery (Response.success result))).1.FailedAs
      .possiblyProcessed := by
  rw [run_delivery_success standard sending,
    afterContent_undecodable ((resultOf_success client.codec written).trans undecodable)]
  exact failedAs_fail rfl

end Deliveries

/-- A reply that reaches the caller as it is: an error, or a value that reads back as it was
written. -/
inductive Travels : Except RemoteError Reply → Prop where
  | error (error : RemoteError) : Travels (.error error)
  | value {value : Json.Value} (readable : value.Readable)
      (depth : value.depth ≤ Json.depthLimit) : Travels (.ok (.value value))

/-- What a caller may learn of a call whose dispatch replies in the given way, if it does. -/
inductive Tells (replies : Except RemoteError Reply → Prop) : Outcome → Prop where
  | value {value : Json.Value} (replied : replies (.ok (.value value))) :
      Tells replies (.ok value)
  | error {error : RemoteError} (replied : replies (.error error)) :
      Tells replies (.error error.failure)
  | unprocessed {failure : Failure} (unreplied : ∀ outcome, ¬replies outcome)
      (kind : failure.kind = .unprocessed) : Tells replies (.error failure)

section Telling

variable {replies : Except RemoteError Reply → Prop}
  (unique : ∀ {first second}, replies first → replies second → first = second)
  {outcome : Outcome} (tells : Tells replies outcome)

include unique tells

theorem Tells.eq_ok_iff (value : Json.Value) :
    outcome = .ok value ↔ replies (.ok (.value value)) := by
  constructor
  · rintro rfl
    cases tells with
    | value replied => exact replied
  · intro expected
    cases tells with
    | value replied =>
        cases unique replied expected
        rfl
    | error replied => cases unique replied expected
    | unprocessed unreplied _ => exact absurd expected (unreplied _)

theorem Tells.eq_possiblyProcessed_iff (failure : Failure) :
    outcome = .error failure ∧ failure.kind = .possiblyProcessed ↔
      ∃ error, replies (.error error) ∧ failure = error.failure := by
  constructor
  · rintro ⟨rfl, possibly⟩
    cases tells with
    | error replied => exact ⟨_, replied, rfl⟩
    | unprocessed _ kind =>
        rw [kind] at possibly
        cases possibly
  · rintro ⟨error, expected, rfl⟩
    cases tells with
    | value replied => cases unique replied expected
    | error replied =>
        cases unique replied expected
        exact ⟨rfl, rfl⟩
    | unprocessed unreplied _ => exact absurd expected (unreplied _)

omit unique in
theorem Tells.unprocessed_iff :
    (∃ failure, outcome = .error failure ∧ failure.kind = .unprocessed) ↔
      ∀ outcome, ¬replies outcome := by
  constructor
  · rintro ⟨failure, rfl, unprocessed⟩
    cases tells with
    | error replied => cases unprocessed
    | unprocessed unreplied _ => exact unreplied
  · intro unreplied
    cases tells with
    | value replied => exact absurd replied (unreplied _)
    | error replied => exact absurd replied (unreplied _)
    | unprocessed _ kind => exact ⟨_, rfl, kind⟩

end Telling

theorem tells_reply (standard : client.handler = .standard) (clientCodec : client.codec = .json)
    (sending : flight.stage = .sending request) {replies : Except RemoteError Reply → Prop}
    {reply : Except RemoteError Reply} (replied : replies reply) (travels : Travels reply) :
    ∃ outcome, Tells replies outcome ∧
      (run client flight cache (delivery (Endpoint.answerTo .json reply))).1.stage =
        .settled outcome := by
  cases travels with
  | error error =>
      refine ⟨_, .error replied, ?_⟩
      rw [Endpoint.answerTo, run_delivery_throwable standard sending]
      rfl
  | value readable depth =>
      refine ⟨_, .value replied, ?_⟩
      refine run_delivery_decodable standard sending (Json.bytes_ne_nil readable.exact) ?_
      rw [clientCodec]
      exact Json.decode_json readable depth

theorem tells_rejection (standard : client.handler = .standard)
    (sending : flight.stage = .sending request) {replies : Except RemoteError Reply → Prop}
    (unreplied : ∀ outcome, ¬replies outcome) {rejection : Endpoint.Rejection}
    (unprocessed : rejection.certainty = .unprocessed) :
    ∃ outcome, Tells replies outcome ∧
      (run client flight cache (delivery rejection.response)).1.stage = .settled outcome := by
  refine ⟨_, .unprocessed unreplied ?_, run_delivery_throwable standard sending _ _⟩
  exact congrArg FailureKind.ofCertainty unprocessed

section Calls

variable {α : Type} (client : Client) (server : Endpoint.Server α) (interface method : String)
  (parameters : Parameters) (cache : Route.Cache)
  (found : Except Net.LookupFault (List Net.Address)) (request : OutboundRequest)

/-- A call after a server has served its request and the answer has come back unchanged. -/
def served (behaviour : Endpoint.Behaviour α) : Flight :=
  let launched := launch client (.fresh interface method parameters) cache found
  let response := (Endpoint.serve behaviour server request.toRequest).response
  (run client launched.1 launched.2 (delivery response)).1

/-- A call that sends a request, with nothing between the client and the server. -/
structure Direct : Prop where
  launched : (launch client (.fresh interface method parameters) cache found).1.stage =
    .sending request
  standard : client.handler = .standard
  clientCodec : client.codec = .json
  serverCodec : server.codec = .json
  unintercepted : server.chain.entries = []
  noHealthCheck : server.healthRoute ≠ some request.uri.path
  readable : (Json.Value.array parameters).Readable
  depth : (Json.Value.array parameters).depth ≤ Json.depthLimit

variable {client server interface method parameters cache found request}
  (direct : Direct client server interface method parameters cache found request)

include direct

/-- The server reads what the client asks for, with the names as headers carry them. -/
theorem Direct.asks : Endpoint.Asks server.codec request.toRequest (FieldValue.cleaned interface)
    (FieldValue.cleaned method) parameters := by
  have requests := requests_launch rfl direct.launched
  have encoded := requests.body
  rw [direct.clientCodec] at encoded
  have written : (Json.Value.array parameters).bytes = request.body := Except.ok.inj encoded
  have decoded := Json.decode_json direct.readable direct.depth
  rw [written, ← direct.serverCodec] at decoded
  exact ⟨decoded, requests.interfaceName, requests.methodName⟩

theorem Direct.response (behaviour : Endpoint.Behaviour α) :
    (Endpoint.serve behaviour server request.toRequest).response =
      (Endpoint.serveIntercepted server request.toRequest).response :=
  Endpoint.response_serve behaviour server request.toRequest direct.unintercepted
    direct.noHealthCheck (requests_launch rfl direct.launched).method

/-- A call with a reply gets the answer to it. -/
theorem Direct.served_of_replies (behaviour : Endpoint.Behaviour α)
    {reply : Except RemoteError Reply}
    (replied : server.registry.Replies (FieldValue.cleaned interface)
      (FieldValue.cleaned method) parameters reply) :
    served client server interface method parameters cache found request behaviour =
      (run client (launch client (.fresh interface method parameters) cache found).1
        (launch client (.fresh interface method parameters) cache found).2
        (delivery (Endpoint.answerTo .json reply))).1 := by
  obtain ⟨deferred, resolved, rfl⟩ := (Endpoint.replies_iff direct.asks).mp replied
  rw [served, direct.response, Endpoint.response_of_deferred server request.toRequest resolved,
    direct.serverCodec]

theorem Direct.served_of_no_reply (behaviour : Endpoint.Behaviour α)
    (unreplied : ∀ reply, ¬server.registry.Replies (FieldValue.cleaned interface)
      (FieldValue.cleaned method) parameters reply) :
    ∃ rejection : Endpoint.Rejection, rejection.certainty = .unprocessed ∧
      served client server interface method parameters cache found request behaviour =
        (run client (launch client (.fresh interface method parameters) cache found).1
          (launch client (.fresh interface method parameters) cache found).2
          (delivery rejection.response)).1 := by
  obtain ⟨rejection, unprocessed, rejected⟩ :=
    Endpoint.rejection_of_no_deferred server request.toRequest fun deferred resolved =>
      unreplied _ ((Endpoint.replies_iff direct.asks).mpr ⟨deferred, resolved, rfl⟩)
  refine ⟨rejection, unprocessed, ?_⟩
  rw [served, direct.response, rejected]

/-- What becomes of a call is what its direct dispatch tells. -/
theorem Direct.tells (behaviour : Endpoint.Behaviour α)
    (travels : ∀ reply, server.registry.Replies (FieldValue.cleaned interface)
      (FieldValue.cleaned method) parameters reply → Travels reply) :
    ∃ outcome, Tells (server.registry.Replies (FieldValue.cleaned interface)
        (FieldValue.cleaned method) parameters) outcome ∧
      (served client server interface method parameters cache found request behaviour).stage =
        .settled outcome := by
  by_cases replied : ∃ reply, server.registry.Replies (FieldValue.cleaned interface)
    (FieldValue.cleaned method) parameters reply
  · obtain ⟨reply, replied⟩ := replied
    rw [direct.served_of_replies behaviour replied]
    exact tells_reply direct.standard direct.clientCodec direct.launched replied
      (travels _ replied)
  · -- Without a reply the server has not begun, and it says so.
    have unreplied := not_exists.mp replied
    obtain ⟨rejection, unprocessed, rejected⟩ := direct.served_of_no_reply behaviour unreplied
    rw [rejected]
    exact tells_rejection direct.standard direct.launched unreplied unprocessed

end Calls

/-- A call between a client and a server with nothing between them has the outcome of dispatching
its method directly. -/
theorem outcome_of_dispatch {α : Type} {client : Client} {server : Endpoint.Server α}
    {interface method : String} {parameters : Parameters} {cache : Route.Cache}
    {found : Except Net.LookupFault (List Net.Address)} {request : OutboundRequest}
    (direct : Direct client server interface method parameters cache found request)
    (behaviour : Endpoint.Behaviour α)
    (travels : ∀ reply, server.registry.Replies (FieldValue.cleaned interface)
      (FieldValue.cleaned method) parameters reply → Travels reply) :
    let replies := server.registry.Replies (FieldValue.cleaned interface)
      (FieldValue.cleaned method) parameters
    let ended := served client server interface method parameters cache found request behaviour
    ended.Settled ∧
      (∀ value, ended.stage = .settled (.ok value) ↔ replies (.ok (.value value))) ∧
      (∀ failure, ended.stage = .settled (.error failure) ∧ failure.kind = .possiblyProcessed ↔
        ∃ error, replies (.error error) ∧ failure = error.failure) ∧
      (ended.FailedAs .unprocessed ↔ ∀ reply, ¬replies reply) := by
  intro replies ended
  obtain ⟨outcome, tells, settled⟩ := direct.tells behaviour travels
  have unique : ∀ {first second}, replies first → replies second → first = second :=
    fun once again => once.unique again
  have settles : ∀ other, ended.stage = .settled other ↔ outcome = other := by
    intro other
    rw [settled]
    exact Stage.settled.injEq outcome other ▸ Iff.rfl
  refine ⟨⟨outcome, settled⟩, ?_, ?_, ?_⟩
  · intro value
    exact (settles _).trans (tells.eq_ok_iff unique value)
  · intro failure
    rw [settles]
    exact tells.eq_possiblyProcessed_iff unique failure
  · simp only [FailedAs, settles]
    exact tells.unprocessed_iff

theorem direct_replyingServer (reply : Parameters → Except RemoteError Json.Value)
    {parameters : Parameters} (readable : (Json.Value.array parameters).Readable)
    (depth : (Json.Value.array parameters).depth ≤ Json.depthLimit) :
    Direct loopback (Endpoint.replyingServer reply) "Echo" "say" parameters .usual (.ok [])
      (loopbackRequest "Echo" "say" parameters) where
  launched := launch_loopback "Echo" "say" parameters .usual (.ok [])
  standard := rfl
  clientCodec := rfl
  serverCodec := rfl
  unintercepted := rfl
  noHealthCheck := (Option.some_ne_none _).symm
  readable := readable
  depth := depth

theorem replies_cleaned (reply : Parameters → Except RemoteError Json.Value)
    (parameters : Parameters) :
    (Endpoint.replyingServer reply).registry.Replies (FieldValue.cleaned "Echo")
      (FieldValue.cleaned "say") parameters ((reply parameters).map .value) := by
  have interface : FieldValue.cleaned "Echo" = "Echo" := by decide
  have method : FieldValue.cleaned "say" = "say" := by decide
  rw [interface, method]
  exact Endpoint.replies_replyingServer reply parameters

theorem outcome_of_dispatch_echo :
    let parameters : Parameters := [.string "hello"]
    let server := Endpoint.replyingServer fun parameters => .ok (.array parameters)
    server.registry.Replies (FieldValue.cleaned "Echo") (FieldValue.cleaned "say") parameters
        (.ok (.value (.array parameters))) ∧
      (served loopback server "Echo" "say" parameters .usual (.ok [])
        (loopbackRequest "Echo" "say" parameters)
        fun _ _ request chain => (.ok (.proceed request), chain)).stage =
          .settled (.ok (.array parameters)) := by
  intro parameters server
  have replies : server.registry.Replies (FieldValue.cleaned "Echo") (FieldValue.cleaned "say")
      parameters (.ok (.value (.array parameters))) := replies_cleaned _ parameters
  have readable : (Json.Value.array parameters).Readable :=
    ⟨⟨trivial, trivial⟩, ⟨trivial, trivial⟩, ⟨trivial, trivial⟩⟩
  have depth : (Json.Value.array parameters).depth ≤ Json.depthLimit := by decide
  have travels : ∀ reply, server.registry.Replies (FieldValue.cleaned "Echo")
      (FieldValue.cleaned "say") parameters reply → Travels reply := by
    intro reply replied
    rw [replied.unique replies]
    exact .value readable depth
  have told := outcome_of_dispatch (direct_replyingServer _ readable depth)
    (fun _ _ request chain => (.ok (.proceed request), chain)) travels
  exact ⟨replies, (told.2.1 (.array parameters)).mpr replies⟩

/-- A value that the reader takes for an embedded document. -/
def announcement : Json.Value := .object [(Json.embeddingKey, .string "1"), ("a", .null)]

/-- The result of a method does not arrive if it announces an embedded document. -/
theorem announcement_undelivered :
    let server := Endpoint.replyingServer fun _ => .ok announcement
    let request := loopbackRequest "Echo" "say" []
    Direct loopback server "Echo" "say" [] .usual (.ok []) request ∧
      announcement.FloatFree ∧ announcement.Ordered ∧ announcement.depth ≤ Json.depthLimit ∧
      server.registry.Replies (FieldValue.cleaned "Echo") (FieldValue.cleaned "say") []
        (.ok (.value announcement)) ∧
      (served loopback server "Echo" "say" [] .usual (.ok []) request
        fun _ _ request chain => (.ok (.proceed request), chain)).stage ≠
          .settled (.ok announcement) := by
  intro server request
  have direct : Direct loopback server "Echo" "say" [] .usual (.ok []) request :=
    direct_replyingServer _ ⟨trivial, trivial, trivial⟩ (by decide)
  have replies : server.registry.Replies (FieldValue.cleaned "Echo") (FieldValue.cleaned "say") []
      (.ok (.value announcement)) := replies_cleaned _ []
  -- The second member is one too many in an object that stands for an embedded document.
  have unread : ∃ fault, loopback.codec.decode announcement.bytes = .error fault := ⟨_, rfl⟩
  obtain ⟨fault, undecodable⟩ := unread
  have failed : (run loopback (launch loopback (.fresh "Echo" "say" []) .usual (.ok [])).1
      (launch loopback (.fresh "Echo" "say" []) .usual (.ok [])).2
      (delivery (Response.success announcement.bytes))).1.FailedAs .possiblyProcessed :=
    run_delivery_undecodable rfl direct.launched (by decide) undecodable
  refine ⟨direct, ⟨trivial, trivial, trivial⟩, ⟨by decide, trivial, trivial, trivial⟩,
    by decide, replies, ?_⟩
  rw [direct.served_of_replies _ replies]
  intro arrived
  obtain ⟨failure, stage, _⟩ := failed
  have same : Stage.settled (.ok announcement) = .settled (.error failure) :=
    arrived.symm.trans stage
  cases same

end Flight
end RemoteCall
