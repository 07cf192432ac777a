import RemoteCall.Proofs.Flight.Deeds
import RemoteCall.Proofs.Flight.Eviction
import RemoteCall.Proofs.Flight.Redirection
import RemoteCall.Proofs.Uri.Replaced

/-!
# How far a redirect reaches

The host, the path and the port that a redirect names are texts from elsewhere, which are put into
a URI and read again with it.  A redirect that is followed keeps the scheme in any case.  It keeps
to the parts that it names exactly if its host is a host and nothing more and its path starts no
query and no fragment; otherwise a part of the text counts as a port, as the owner of the host, or
as a query.
-/

namespace RemoteCall
namespace Redirect

variable {current next : Uri} {host authority : String} {fields : Fields}

/-- A redirect has changed the host, the path and the port that it names, and nothing else. -/
structure Stays (current : Uri) (host : String) (fields : Fields) (next : Uri) : Prop where
  scheme : next.scheme = current.scheme
  query : next.query = current.query
  named : Net.bracketed host ≠ ""
  host : next.host = some (Net.bracketed host)
  port : next.port = ((fields.read .redirectPort).bind readPort?).or current.port
  path : next.path = ((fields.read .redirectPath).map Uri.rooted).getD current.path

/-- The host is a host and nothing more, and the path is a path and nothing more. -/
structure Plain (host : String) (fields : Fields) : Prop where
  host : Uri.IsHostPart (Net.bracketed host).toList
  path : ∀ path, fields.read .redirectPath = some path → '?' ∉ path.toList ∧ '#' ∉ path.toList

section Parts

theorem applyPath_cases (applied : applyPath current fields = .ok next) :
    fields.read .redirectPath = none ∧ next = current ∨
      ∃ path, fields.read .redirectPath = some path ∧ current.withPath path = .ok next := by
  unfold applyPath at applied
  split at applied
  · next unnamed =>
      cases applied
      exact Or.inl ⟨unnamed, rfl⟩
  · next path named =>
      cases replaced : current.withPath path with
      | error fault =>
          rw [replaced] at applied
          cases applied
      | ok uri =>
          rw [replaced] at applied
          cases applied
          exact Or.inr ⟨path, named, replaced⟩

theorem applyPort_cases (applied : applyPort current fields = .ok next) :
    fields.read .redirectPort = none ∧ next = current ∨
      ∃ text port, fields.read .redirectPort = some text ∧ readPort? text = some port ∧
        current.withPort port = .ok next := by
  unfold applyPort at applied
  split at applied
  · next unnamed =>
      cases applied
      exact Or.inl ⟨unnamed, rfl⟩
  · next text named =>
      split at applied
      · cases applied
      · next port read =>
          cases replaced : current.withPort port with
          | error fault =>
              rw [replaced] at applied
              cases applied
          | ok uri =>
              rw [replaced] at applied
              cases applied
              exact Or.inr ⟨text, port, named, read, replaced⟩

theorem stages_of_target (aimed : target current host fields = .ok next) :
    ∃ hosted pathed, current.withHost host = .ok hosted ∧
      applyPath hosted fields = .ok pathed ∧ applyPort pathed fields = .ok next := by
  unfold target at aimed
  split at aimed
  · cases aimed
  · next hosted replaced =>
      split at aimed
      · cases aimed
      · next pathed applied => exact ⟨hosted, pathed, replaced, applied, aimed⟩

variable (proper : current.Proper)

include proper

/-- Whatever the path is, it has no part in the scheme and in the authority. -/
theorem applyPath_keeps (aimed : current.authority = some authority)
    (applied : applyPath current fields = .ok next) :
    next.Proper ∧ next.scheme = current.scheme ∧ next.authority = some authority := by
  rcases applyPath_cases applied with ⟨_, rfl⟩ | ⟨path, _, replaced⟩
  · exact ⟨proper, rfl, aimed⟩
  · rw [Uri.withPath_eq aimed] at replaced
    obtain ⟨nextProper, scheme⟩ := proper.of_rebuild replaced
    exact ⟨nextProper, scheme, (Uri.parts_of_rebuild replaced).2.1⟩

theorem applyPath_reaims (aimed : current.authority = some authority)
    (plain : ∀ path, fields.read .redirectPath = some path →
      '?' ∉ path.toList ∧ '#' ∉ path.toList)
    (applied : applyPath current fields = .ok next) :
    Uri.Reaims current next authority
      (((fields.read .redirectPath).map Uri.rooted).getD current.path) := by
  rcases applyPath_cases applied with ⟨unnamed, rfl⟩ | ⟨path, named, replaced⟩
  · rw [unnamed]
    exact ⟨proper, rfl, aimed, rfl, rfl⟩
  · obtain ⟨unqueried, unfragmented⟩ := plain path named
    rw [named]
    exact proper.of_withPath aimed unqueried unfragmented replaced

/-- Whatever the port is, it changes the authority alone. -/
theorem applyPort_keeps (applied : applyPort current fields = .ok next) :
    next.Proper ∧ next.scheme = current.scheme ∧ next.path = current.path := by
  rcases applyPort_cases applied with ⟨_, rfl⟩ | ⟨text, port, _, _, replaced⟩
  · exact ⟨proper, rfl, rfl⟩
  · cases aimed : current.host with
    | none =>
        rw [Uri.withPort, aimed] at replaced
        cases replaced
    | some host =>
        have reaims := proper.of_withPort aimed replaced
        exact ⟨reaims.proper, reaims.scheme, reaims.path⟩

theorem applyPort_reaims (isHost : Uri.IsHostPart (Net.bracketed host).toList)
    {before : Option UInt16} (aimed : current.authority = some (Uri.authorityText host before))
    (applied : applyPort current fields = .ok next) :
    Uri.Reaims current next
      (Uri.authorityText host (((fields.read .redirectPort).bind readPort?).or before))
      current.path := by
  rcases applyPort_cases applied with ⟨unnamed, rfl⟩ | ⟨text, port, named, read, replaced⟩
  · rw [unnamed]
    exact ⟨proper, rfl, aimed, rfl, rfl⟩
  · have reaims := proper.of_withPort (Uri.host_of_authority before isHost aimed) replaced
    rw [Uri.authorityText_bracketed] at reaims
    rw [named, Option.bind_some, read]
    exact reaims

end Parts

section Targets

theorem plain_of_stays (stays : Stays current host fields next) (nextProper : next.Proper) :
    Plain host fields := by
  constructor
  · obtain ⟨authority, _, isHost⟩ := Option.map_eq_some_iff.mp stays.host
    have nonempty : Uri.hostOf authority.toList ≠ [] := by
      intro empty
      rw [empty] at isHost
      exact stays.named isHost.symm
    rw [← isHost, String.toList_ofList]
    exact Uri.isHostPart_hostOf nonempty
  · intro path named
    have legal := nextProper.path_characters
    rw [stays.path, named, Option.map_some, Option.getD_some] at legal
    constructor
    · rw [← Uri.mem_rooted_iff (by decide)]
      exact fun member => (Uri.ne_of_isPathCharacter (legal '?' member)).1 rfl
    · rw [← Uri.mem_rooted_iff (by decide)]
      exact fun member => (Uri.ne_of_isPathCharacter (legal '#' member)).2 rfl

variable (proper : current.Proper) (aimed : target current host fields = .ok next)

include proper aimed

theorem proper_of_target : next.Proper ∧ next.scheme = current.scheme := by
  obtain ⟨hosted, pathed, replaced, pathApplied, portApplied⟩ := stages_of_target aimed
  have first := proper.of_withHost replaced
  obtain ⟨pathedProper, pathedScheme, _⟩ := applyPath_keeps first.proper first.authority pathApplied
  obtain ⟨nextProper, scheme, _⟩ := applyPort_keeps pathedProper portApplied
  exact ⟨nextProper, scheme.trans (pathedScheme.trans first.scheme)⟩

theorem stays_of_plain (plain : Plain host fields) : Stays current host fields next := by
  obtain ⟨hosted, pathed, replaced, pathApplied, portApplied⟩ := stages_of_target aimed
  have first := proper.of_withHost replaced
  have second := applyPath_reaims first.proper first.authority plain.path pathApplied
  have third := applyPort_reaims second.proper plain.host second.authority portApplied
  constructor
  · rw [third.scheme, second.scheme, first.scheme]
  · rw [third.query, second.query, first.query]
  · intro empty
    have host := plain.host
    rw [empty] at host
    exact host.nonempty rfl
  · exact Uri.host_of_authority _ plain.host third.authority
  · exact Uri.port_of_authority _ plain.host third.authority
  · rw [third.path, second.path, first.path]

/-- A redirect that leads somewhere keeps to the parts that it names exactly if each of its texts is
such a part and nothing more. -/
theorem stays_iff_plain : Stays current host fields next ↔ Plain host fields :=
  ⟨fun stays => plain_of_stays stays (proper_of_target proper aimed).1,
    stays_of_plain proper aimed⟩

end Targets

end Redirect

namespace Flight

variable {client : Client} {call : Call} {cache : Route.Cache} {request : OutboundRequest}

/-- A call that has failed in an exchange sends nothing more, and nothing is remembered for it. -/
structure Over (client : Client) (before : Flight × Route.Cache) (exchange : Exchange)
    (key : Option String) (after : Flight × Route.Cache) : Prop where
  unsent : requests (deeds client before.1 before.2 exchange.events) = []
  silent : ∀ later, deeds client after.1 after.2 later = []
  forgotten : ∀ name, key = some name → after.2.find? name = none

theorem over_of_failedAs (standard : client.handler = .standard) {before : Flight × Route.Cache}
    {key : Option String} (confined : Confined key cache before)
    (sending : before.1.stage = .sending request) (built : before.1.call.request = some request)
    {exchange : Exchange} {kind : FailureKind}
    (failed : (run client before.1 before.2 exchange.events).1.FailedAs kind) :
    Over client before exchange key (run client before.1 before.2 exchange.events) := by
  have retentive := retentive_of_standard standard
  obtain ⟨failure, settled, _⟩ := failed
  have stays : (run client before.1 before.2 exchange.events).1.call.request ≠ none :=
    built_run retentive (by rw [built]; nofun) before.2 exchange.events
  obtain ⟨last, isLast⟩ := Option.ne_none_iff_exists'.mp stays
  constructor
  · rw [deeds_exchange retentive sending built, settled]
    rfl
  · exact deeds_settled settled
  · exact (confined.run standard exchange.events).forgotten settled isLast

/-- A redirect is refused, and then the call is over, or it is followed.  Whichever texts it names,
the new URI has the scheme of the one before.  It has the query of the one before, too, and the
host, the port and the path that are named, or the port and the path of the one before, exactly if
the host is a host and nothing more and the path is a path and nothing more. -/
theorem redirect_scope (standard : client.handler = .standard) (events : List Event)
    (sending : (run client (start client call cache).1 (start client call cache).2
      events).1.stage = .sending request)
    (proper : request.uri.Proper) {head : ResponseHead} {body : Bytes}
    (signal : (Exchange.answered head (.ok body)).isRedirectSignal client.codec = true) :
    let started := start client call cache
    let now := run client started.1 started.2 events
    let next := run client now.1 now.2 (Exchange.answered head (.ok body)).events
    (next.1.FailedAs .unprocessed ∨
        client.settings.redirectsLimit < now.1.call.redirects ∧
          next.1.FailedAs .redirectsExceeded) ∧
        Over client now (.answered head (.ok body)) request.routeKey next ∨
      ∃ host uri, head.fields.read .redirectHost = some host ∧
        Redirect.target request.uri host head.fields = .ok uri ∧
        next.1.stage = .sending ((directed request head.fields).withUri uri) ∧
        uri.Proper ∧ uri.scheme = request.uri.scheme ∧
        (Redirect.Stays request.uri host head.fields uri ↔ Redirect.Plain host head.fields) := by
  intro started now next
  have retentive := retentive_of_standard standard
  have built : now.1.call.request = some request :=
    (carries_attempt client _ cache).run retentive started.2 events request sending
  have confined : Confined (client.keyOf call) cache now :=
    (confined_start client call cache).run standard events
  have concluded {kind : FailureKind} (failed : next.1.FailedAs kind) :
      Over client now (.answered head (.ok body)) request.routeKey next := by
    rw [confined.keyed request built]
    exact over_of_failedAs standard confined sending built failed
  have answered : next.1 = _ := run_redirect_answered sending standard now.2 built signal
  have reading : { now.1 with stage := .reading head .redirect }.call.request = some request :=
    built
  have follows := follows client reading now.2 head.fields
  generalize follow client { now.1 with stage := .reading head .redirect } now.2 head.fields =
    followed at follows answered
  cases follows with
  | forbidden =>
      have failed : next.1.FailedAs .unprocessed := answered ▸ failedAs_fail rfl
      exact Or.inl ⟨Or.inl failed, concluded failed⟩
  | exceeded allowed exceeded =>
      have failed : next.1.FailedAs .redirectsExceeded := answered ▸ failedAs_fail rfl
      exact Or.inl ⟨Or.inr ⟨exceeded, failed⟩, concluded failed⟩
  | lost _ _ fault unprocessed =>
      have failed : next.1.FailedAs .unprocessed := answered ▸ failedAs_fail unprocessed
      exact Or.inl ⟨Or.inl failed, concluded failed⟩
  | @followed _ _ host named uri aimed =>
      rw [directed_uri] at aimed
      obtain ⟨nextProper, scheme⟩ := Redirect.proper_of_target proper aimed
      refine Or.inr ⟨host, uri, named, aimed, ?_, nextProper, scheme,
        Redirect.stays_iff_plain proper aimed⟩
      rw [answered]
      rfl

/-- A client of a server whose port is not named. -/
def unported : Client :=
  { loopback with entry := ⟨some "http", some "10.0.0.9", "/calls", some "shard=3"⟩ }

theorem proper_unported : unported.entry.Proper :=
  Uri.proper_of_parse (by rfl : Uri.parse "http://10.0.0.9/calls?shard=3" = .ok unported.entry)
    nofun nofun

/-- The request of such a client. -/
def unportedRequest : OutboundRequest :=
  let call := Call.fresh "SimpleCalc" "add" []
  unported.complete call (unported.addressed call (Json.Value.array []).bytes)

theorem start_unported :
    start unported (.fresh "SimpleCalc" "add" []) .usual =
      (send ⟨.fresh "SimpleCalc" "add" [], [], .pausing 0⟩ unportedRequest, .usual) :=
  start_of_address (by decide) rfl rfl .usual

/-- The call of such a client, once it has been redirected. -/
def onward (redirection : Response.Redirection) : Flight :=
  let started := start unported (.fresh "SimpleCalc" "add" []) .usual
  (run unported started.1 started.2 (redirected redirection).events).1

theorem exists_onward {redirection : Response.Redirection} {uri : Uri}
    (aimed : Redirect.target unported.entry (FieldValue.cleaned redirection.host)
      (Response.redirect redirection).fields = .ok uri) :
    ∃ request : OutboundRequest, (onward redirection).stage = .sending request ∧
      request.uri = uri := by
  let sent := send ⟨.fresh "SimpleCalc" "add" [], [], .pausing 0⟩ unportedRequest
  have answered := run_redirect_answered (rfl : sent.stage = .sending unportedRequest)
    (rfl : unported.handler = .standard) .usual (rfl : sent.call.request = some unportedRequest)
    (isRedirectSignal_redirected redirection unported.codec)
  have followed := answered.trans (follow_aimed rfl (by decide)
    (by decide : ¬unported.settings.redirectsLimit < 0)
    (Response.redirect_read_redirectHost redirection) aimed)
  refine ⟨(directed unportedRequest (Response.redirect redirection).fields).withUri uri, ?_, rfl⟩
  rw [onward, start_unported]
  exact congrArg Flight.stage followed

theorem not_failedAs_of_sending {flight : Flight} (sending : flight.stage = .sending request)
    {kind : FailureKind} : ¬flight.FailedAs kind := by
  rintro ⟨failure, failed, _⟩
  rw [sending] at failed
  cases failed

/-- A host without a port leaves it open which port is meant. -/
theorem redirect_scope_unported :
    let redirection : Response.Redirection := ⟨"10.0.0.7", some "next", none, false⟩
    ∃ request : OutboundRequest, (onward redirection).stage = .sending request ∧
      Redirect.Stays unported.entry "10.0.0.7" (Response.redirect redirection).fields
        request.uri := by
  intro redirection
  obtain ⟨request, sent, _⟩ := exists_onward (by decide :
    Redirect.target unported.entry (FieldValue.cleaned redirection.host)
      (Response.redirect redirection).fields =
        .ok ⟨some "http", some "10.0.0.7", "/next", some "shard=3"⟩)
  have plain : Redirect.Plain "10.0.0.7" (Response.redirect redirection).fields := by
    refine ⟨.name (by decide) (by decide) (by decide) (by decide), ?_⟩
    rintro path ⟨⟩
    decide
  have sending : (run unported (start unported (.fresh "SimpleCalc" "add" []) .usual).1
      (start unported (.fresh "SimpleCalc" "add" []) .usual).2 []).1.stage =
        .sending unportedRequest := by
    rw [start_unported]
    rfl
  have scope := redirect_scope rfl [] sending proper_unported
    (isRedirectSignal_redirected redirection unported.codec)
  simp only [run_nil] at scope
  rcases scope with ⟨failed | exceeded, _⟩ | ⟨host, uri, named, _, followed, _, _, stays⟩
  · exact absurd failed (not_failedAs_of_sending sent)
  · exact absurd exceeded.2 (not_failedAs_of_sending sent)
  · have written : FieldValue.cleaned redirection.host = "10.0.0.7" := by decide
    have read := (Response.redirect_read_redirectHost redirection).symm.trans named
    rw [written] at read
    cases read
    have kept : Redirect.Stays unported.entry "10.0.0.7" (Response.redirect redirection).fields
        uri := stays.mpr plain
    refine ⟨(directed unportedRequest (Response.redirect redirection).head.fields).withUri uri,
      ?_, kept⟩
    rw [onward, redirected]
    exact followed

/-- The text of a host moves the port as well, and that of a path moves the query. -/
theorem redirect_moves_parts :
    let ported : Response.Redirection := ⟨"10.0.0.7:81", none, none, false⟩
    let queried : Response.Redirection := ⟨"10.0.0.7", some "/a?b", none, false⟩
    (start unported (.fresh "SimpleCalc" "add" []) .usual).1.Sending ∧ unported.entry.Proper ∧
      (∃ request, (onward ported).stage = .sending request ∧
        unported.entry.port = none ∧ request.uri.port = some 81 ∧
        ¬Redirect.Stays unported.entry ported.host (Response.redirect ported).fields
          request.uri) ∧
      ∃ request, (onward queried).stage = .sending request ∧
        unported.entry.query = some "shard=3" ∧ request.uri.query = some "b?shard=3" ∧
        ¬Redirect.Stays unported.entry queried.host (Response.redirect queried).fields
          request.uri := by
  intro ported queried
  refine ⟨⟨_, rfl, rfl⟩, proper_unported, ?_, ?_⟩
  · obtain ⟨request, sent, isUri⟩ := exists_onward (by decide :
      Redirect.target unported.entry (FieldValue.cleaned ported.host)
        (Response.redirect ported).fields =
          .ok ⟨some "http", some "10.0.0.7:81", "/calls", some "shard=3"⟩)
    have moved : request.uri.port = some 81 := by
      rw [isUri]
      decide
    have unnamed : (Response.redirect ported).fields.read .redirectPort = none := by decide
    refine ⟨request, sent, by decide, moved, fun stays => ?_⟩
    have kept := stays.port
    rw [moved, unnamed] at kept
    exact absurd kept (by decide)
  · obtain ⟨request, sent, isUri⟩ := exists_onward (by decide :
      Redirect.target unported.entry (FieldValue.cleaned queried.host)
        (Response.redirect queried).fields =
          .ok ⟨some "http", some "10.0.0.7", "/a", some "b?shard=3"⟩)
    have moved : request.uri.query = some "b?shard=3" := congrArg Uri.query isUri
    refine ⟨request, sent, rfl, moved, fun stays => ?_⟩
    have kept := stays.query
    rw [moved] at kept
    exact absurd kept (by decide)

end Flight
end RemoteCall
