import RemoteCall.Proofs.Flight.Budget
import RemoteCall.Proofs.Response.Redirections
import RemoteCall.Proofs.Uri.Reaimed

/-!
# Redirects arrive where they point

A server writes a redirect into headers, and a client writes a new URI from these and from the URI
that it had.  Whatever can be named in a redirect reaches the new URI: the host and, where they are
given, the path and the port are those of the redirect, and everything else is as it was.
-/

namespace RemoteCall

namespace FieldValue

theorem isPlain_of_isAlphanum {character : Char} (alphanum : character.isAlphanum = true) :
    IsPlain character := by
  have ranges := Text.isAlphanum_iff.mp alphanum
  right
  omega

theorem isPlain_of_isHostCharacter {character : Char}
    (host : Net.isHostCharacter character = true) : IsPlain character := by
  simp only [Net.isHostCharacter, Net.isNameCharacter, Bool.or_eq_true, beq_iff_eq] at host
  rcases host with ((((alphanum | rfl) | rfl) | rfl) | rfl) | rfl
  · exact isPlain_of_isAlphanum alphanum
  all_goals exact Or.inr ⟨by decide, by decide⟩

theorem isPlain_of_isPathCharacter {character : Char}
    (path : Uri.isPathCharacter character = true) (ascii : character.toNat < 0x80) :
    IsPlain character := by
  right
  simp only [Uri.isPathCharacter, Bool.or_eq_true, Bool.and_eq_true, beq_iff_eq,
    decide_eq_true_eq] at path
  omega

end FieldValue

namespace Redirect

open Response

/-- A redirect all of whose parts can stand in a URI. -/
structure Followable (redirection : Redirection) : Prop where
  host : Net.IsHost redirection.host
  path : ∀ path, redirection.path = some path → ∀ character ∈ path.toList,
    Uri.isPathCharacter character = true ∧ character.toNat < 0x80

/-- Where a redirect of a request leads. -/
structure Leads (current : Uri) (redirection : Redirection) (next : Uri) : Prop where
  proper : next.Proper
  scheme : next.scheme = current.scheme
  query : next.query = current.query
  host : next.host = some (Net.bracketed redirection.host)
  port : next.port = redirection.givenPort.or current.port
  path : next.path = (redirection.givenPath.map Uri.rooted).getD current.path

theorem readPort?_toString (port : UInt16) : readPort? (toString port.toNat) = some port := by
  rw [readPort?, Text.trimmed_toString, Text.readNatural?_toString port.toNat_lt]
  simp

variable {redirection : Redirection} (followable : Followable redirection)

include followable

theorem Followable.cleaned_host : FieldValue.cleaned redirection.host = redirection.host :=
  FieldValue.cleaned_of_isPlain fun character member =>
    FieldValue.isPlain_of_isHostCharacter (followable.host.isHostCharacter character member)

theorem Followable.legal_path {path : String} (given : redirection.givenPath = some path) :
    ∀ character ∈ path.toList, Uri.isPathCharacter character = true ∧ character.toNat < 0x80 :=
  followable.path path (Option.filter_eq_some_iff.mp given).1

theorem Followable.read_redirectPath :
    (redirect redirection).fields.read .redirectPath = redirection.givenPath := by
  rw [redirect_read_redirectPath]
  cases given : redirection.givenPath with
  | none => rfl
  | some path =>
      have legal := followable.legal_path given
      rw [Option.map_some, FieldValue.cleaned_of_isPlain fun character member =>
        FieldValue.isPlain_of_isPathCharacter (legal character member).1 (legal character member).2]

omit followable in
theorem read_redirectPort (redirection : Redirection) :
    (redirect redirection).fields.read .redirectPort =
      redirection.givenPort.map fun port => toString port.toNat := by
  rw [redirect_read_redirectPort, Redirection.portText]
  cases redirection.givenPort with
  | none => rfl
  | some port => rw [Option.map_some, Option.map_some, FieldValue.cleaned_toString]

/-- The path of a redirect replaces the one before, if there is one. -/
theorem Followable.applyPath {current : Uri} (proper : current.Proper) {authority : String}
    (aimed : current.authority = some authority) (isAuthority : Uri.IsAuthority authority) :
    ∃ next, applyPath current (redirect redirection).fields = .ok next ∧
      Uri.Reaims current next authority
        ((redirection.givenPath.map Uri.rooted).getD current.path) := by
  unfold Redirect.applyPath
  rw [followable.read_redirectPath]
  cases given : redirection.givenPath with
  | none => exact ⟨current, rfl, proper, rfl, aimed, rfl, rfl⟩
  | some path =>
      obtain ⟨next, replaced, reaims⟩ := proper.withPath aimed isAuthority fun character member =>
        (followable.legal_path given character member).1
      refine ⟨next, ?_, reaims⟩
      dsimp only
      rw [replaced]
      rfl

omit followable in
/-- The port of a redirect replaces the one before, if there is one. -/
theorem applyPort_redirect {current : Uri} (proper : current.Proper) {host : String}
    (written : Net.Written (Net.bracketed host).toList) {before : Option UInt16}
    (aimed : current.authority = some (Uri.authorityText host before)) :
    ∃ next, applyPort current (redirect redirection).fields = .ok next ∧
      Uri.Reaims current next (Uri.authorityText host (redirection.givenPort.or before))
        current.path := by
  unfold applyPort
  rw [read_redirectPort]
  cases redirection.givenPort with
  | none => exact ⟨current, rfl, proper, rfl, aimed, rfl, rfl⟩
  | some port =>
      obtain ⟨next, replaced, reaims⟩ := proper.withPort written aimed port
      refine ⟨next, ?_, reaims⟩
      rw [Option.map_some]
      dsimp only
      rw [readPort?_toString]
      dsimp only
      rw [replaced]
      rfl

/-- A redirect of a request leads to where it points. -/
theorem exists_target {current : Uri} (proper : current.Proper) :
    ∃ next, target current redirection.host (redirect redirection).fields = .ok next ∧
      Leads current redirection next := by
  have written := Net.written_bracketed followable.host
  obtain ⟨hosted, replaced, first⟩ := proper.withHost written
  obtain ⟨pathed, applied, second⟩ := followable.applyPath first.proper first.authority
    (Uri.isAuthority_authorityText current.port written)
  obtain ⟨next, ported, third⟩ := applyPort_redirect second.proper written second.authority
  refine ⟨next, ?_, ?_⟩
  · rw [target, replaced]
    dsimp only
    rw [applied]
    exact ported
  · refine ⟨third.proper, ?_, ?_, ?_, ?_, ?_⟩
    · rw [third.scheme, second.scheme, first.scheme]
    · rw [third.query, second.query, first.query]
    · exact Uri.host_of_authority _ (Uri.isHostPart_of_written written) third.authority
    · exact Uri.port_of_authority _ (Uri.isHostPart_of_written written) third.authority
    · rw [third.path, second.path, first.path]

end Redirect

namespace Flight

open Response

variable {client : Client} {flight : Flight} {request : OutboundRequest}
  {redirection : Redirection}

/-- The request that follows a redirect, apart from where it goes. -/
def marked (redirection : Redirection) (request : OutboundRequest) : OutboundRequest :=
  if redirection.direct then request.withHeader .directDirection Header.yes else request

theorem directed_redirect (request : OutboundRequest) :
    directed request (redirect redirection).head.fields = marked redirection request := by
  rw [directed, Response.head, redirect_has_directDirection, marked]

/-- The exchange in which a redirect arrives. -/
def redirected (redirection : Redirection) : Exchange :=
  .answered (redirect redirection).head (.ok (redirect redirection).body)

theorem isRedirectSignal_redirected (redirection : Redirection) (codec : Codec) :
    (redirected redirection).isRedirectSignal codec = true := by
  refine Exchange.isRedirectSignal_iff.mpr ⟨_, _, .null, rfl, ?_, responseKind?_redirect _, ?_⟩
  · exact redirect_status redirection
  · rw [redirect_body]
    rfl

theorem follow_aimed {cache : Route.Cache} {fields : Fields} {host : String} {uri : Uri}
    (built : flight.call.request = some request) (allowed : client.settings.redirectsLimit ≠ 0)
    (within : ¬client.settings.redirectsLimit < flight.call.redirects)
    (named : fields.read .redirectHost = some host)
    (aimed : Redirect.target request.uri host fields = .ok uri) :
    (follow client flight cache fields).1 =
      send { flight with call := flight.call.countRedirect.withRequest (directed request fields) }
        ((directed request fields).withUri uri) := by
  rw [← directed_uri request fields] at aimed
  rw [follow, built]
  dsimp only
  rw [if_neg allowed, if_neg within, named]
  dsimp only
  rw [aimed]

/-- Where a number of redirects lead, each of them from where the one before has led. -/
inductive LeadsAlong (redirections : Nat → Redirection) (first : Uri) : Nat → Uri → Prop where
  | start : LeadsAlong redirections first 0 first
  | follow {count : Nat} {current next : Uri} (before : LeadsAlong redirections first count current)
      (leads : Redirect.Leads current (redirections count) next) :
      LeadsAlong redirections first (count + 1) next

section Following

variable (standard : client.handler = .standard) (sending : flight.stage = .sending request)
  (built : flight.call.request = some request)

include standard sending built

/-- A redirect that may be followed is counted, and the request goes to where it leads. -/
theorem exists_run_redirected (allowed : client.settings.redirectsLimit ≠ 0)
    (within : ¬client.settings.redirectsLimit < flight.call.redirects)
    (proper : request.uri.Proper) (followable : Redirect.Followable redirection)
    (cache : Route.Cache) :
    ∃ uri : Uri, Redirect.Leads request.uri redirection uri ∧
      (run client flight cache (redirected redirection).events).1 =
        send { flight with
            call := flight.call.countRedirect.withRequest (marked redirection request)
            stage := .reading (redirect redirection).head .redirect }
          ((marked redirection request).withUri uri) := by
  obtain ⟨uri, aimed, leads⟩ := Redirect.exists_target followable proper
  rw [← followable.cleaned_host] at aimed
  have answered := run_redirect_answered sending standard cache built
    (isRedirectSignal_redirected redirection client.codec)
  have followed := answered.trans
    (follow_aimed built allowed within (redirect_read_redirectHost redirection) aimed)
  rw [directed_redirect] at followed
  exact ⟨uri, leads, followed⟩

/-- A redirect that may be followed sends the request on to where it points: to the host, the port
and the path that it names, with the scheme and the query that the request had.  The port and the
path stay where the redirect names none, and the request says that it comes from a relay if the
redirect does. -/
theorem redirect_followed (allowed : client.settings.redirectsLimit ≠ 0)
    (within : ¬client.settings.redirectsLimit < flight.call.redirects)
    (proper : request.uri.Proper) (followable : Redirect.Followable redirection)
    (cache : Route.Cache) :
    let next := (run client flight cache (redirected redirection).events).1
    ∃ uri : Uri,
      next.stage = .sending ((marked redirection request).withUri uri) ∧
        next.call.request = some ((marked redirection request).withUri uri) ∧
        uri.scheme = request.uri.scheme ∧ uri.query = request.uri.query ∧
        uri.host = some (Net.bracketed redirection.host) ∧
        uri.port = redirection.givenPort.or request.uri.port ∧
        uri.path = (redirection.givenPath.map Uri.rooted).getD request.uri.path ∧
        uri.Proper ∧
        (redirection.direct = true →
          (marked redirection request).fields.read .directDirection = some Header.yes) := by
  intro next
  obtain ⟨uri, leads, sent⟩ :=
    exists_run_redirected standard sending built allowed within proper followable cache
  have isNext : next = _ := sent
  refine ⟨uri, ?_, ?_, leads.scheme, leads.query, leads.host, leads.port, leads.path, leads.proper,
    ?_⟩
  · rw [isNext]
    rfl
  · rw [isNext]
    rfl
  · intro direct
    rw [marked, if_pos direct]
    exact (Fields.read_write_self _ _ _).trans (by decide)

/-- Redirects that come one after another, no more than may be followed, lead the request along;
its scheme and its query are those of the first request all the way. -/
theorem redirects_followed (proper : request.uri.Proper) {redirections : Nat → Redirection}
    (followable : ∀ index, Redirect.Followable (redirections index)) (caches : Nat → Route.Cache)
    {count : Nat}
    (room : flight.call.redirects.toNat + count ≤ client.settings.followedRedirects) :
    let now := course client (fun index => redirected (redirections index)) caches flight count
    ∃ sent : OutboundRequest, now.stage = .sending sent ∧ now.call.request = some sent ∧
      now.call.redirects.toNat ≤ flight.call.redirects.toNat + count ∧
        LeadsAlong redirections request.uri count sent.uri ∧ sent.uri.Proper ∧
          sent.uri.scheme = request.uri.scheme ∧ sent.uri.query = request.uri.query := by
  induction count with
  | zero => exact ⟨request, sending, built, Nat.le_refl _, .start, proper, rfl, rfl⟩
  | succ count ih =>
      obtain ⟨sent, nowSending, nowBuilt, counted, along, nowProper, scheme, query⟩ :=
        ih (by omega)
      obtain ⟨allowed, within⟩ := Settings.room_of_followedRedirects
        (Nat.le_trans (Nat.succ_le_succ counted) room)
      obtain ⟨uri, leads, followed⟩ := exists_run_redirected standard nowSending nowBuilt allowed
        within nowProper (followable count) (caches count)
      rw [course, followed]
      refine ⟨_, rfl, rfl, ?_, .follow along leads, leads.proper, leads.scheme.trans scheme,
        leads.query.trans query⟩
      have more := toNat_increment_le (course client
        (fun index => redirected (redirections index)) caches flight count).call.redirects
      exact Nat.le_trans more (Nat.succ_le_succ counted)

end Following

/-- A relay sends a call on to an address of the longer family. -/
theorem redirect_followed_relayed :
    let request := OutboundRequest.post
      ⟨some "http", some "10.0.0.9:8080", "/calls", some "shard=3"⟩ []
    let flight := send ⟨.fresh "SimpleCalc" "add" [], [], .pausing 0⟩ request
    let next := (run loopback flight .usual
      (redirected ⟨"2001:db8::7", some "next", none, true⟩).events).1
    ∃ sent : OutboundRequest, next.stage = .sending sent ∧
      sent.fields.read .directDirection = some Header.yes ∧
        sent.uri.scheme = some "http" ∧ sent.uri.host = some "[2001:db8::7]" ∧
          sent.uri.port = some 8080 ∧ sent.uri.path = "/next" ∧
            sent.uri.query = some "shard=3" := by
  intro request flight next
  have proper : request.uri.Proper :=
    Uri.proper_of_parse (by rfl : Uri.parse "http://10.0.0.9:8080/calls?shard=3" = .ok request.uri)
      nofun nofun
  obtain ⟨address, read⟩ := Option.isSome_iff_exists.mp
    (by decide : (Net.Ipv6.ofChars? "2001:db8::7".toList).isSome = true)
  have followable : Redirect.Followable ⟨"2001:db8::7", some "next", none, true⟩ := by
    refine ⟨.ipv6 read, ?_⟩
    rintro path ⟨⟩
    have legal : "next".toList.all (fun character => Uri.isPathCharacter character &&
        decide (character.toNat < 0x80)) = true := by decide
    simpa using legal
  obtain ⟨uri, stage, _, scheme, query, host, port, path, _, direct⟩ :=
    redirect_followed (rfl : loopback.handler = .standard)
      (rfl : flight.stage = .sending request) rfl (by decide) (by decide) proper followable .usual
  refine ⟨_, stage, direct rfl, scheme, host.trans (by decide), port.trans (by decide),
    path.trans (by decide), query⟩

end Flight

end RemoteCall
