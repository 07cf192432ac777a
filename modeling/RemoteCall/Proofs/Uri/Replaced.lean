import RemoteCall.Proofs.Uri.Reaimed

/-!
# Parts replaced by any text

A part of a URI may be replaced by a text from elsewhere, about which nothing is known.  The new
authority, or the new path with the query, is put together as a text and read again, and if this
succeeds then the new authority is the text that was put together.  How it divides into a host and
a port is another matter, as is how the text of a path and a query divides into these.
-/

namespace RemoteCall
namespace Uri

variable {uri next : Uri} {host authority path newLocator : String}

theorem parts_of_rebuild (rebuilt : uri.rebuild authority newLocator = .ok next) :
    IsAuthority authority ∧ next.authority = some authority ∧
      next.scheme = some uri.schemeOrHttp ∧
      locator newLocator.toList = .ok ⟨next.writtenPath, next.query⟩ := by
  unfold rebuild at rebuilt
  split at rebuilt
  · cases rebuilt
  · next found whole =>
      obtain ⟨rfl, isAuthority⟩ := isAuthority_of_wholeAuthority whole
      split at rebuilt
      · cases rebuilt
      · next located =>
          cases rebuilt
          exact ⟨isAuthority, rfl, rfl, located⟩

theorem exists_locatorText (path : String) (query : Option String) :
    ∃ rest, (locatorText path query).toList = path.toList ++ rest := by
  cases query with
  | none => exact ⟨[], (List.append_nil _).symm⟩
  | some query => exact ⟨'?' :: query.toList, by simp [locatorText]⟩

/-- Characters of a path that is read are characters of paths, as long as neither a query nor a
fragment starts in it. -/
theorem legal_of_locator {rest : List Char} (unqueried : '?' ∉ path.toList)
    (unfragmented : '#' ∉ path.toList) {found : Locator}
    (located : locator (path.toList ++ rest) = .ok found) :
    ∀ character ∈ path.toList, isPathCharacter character = true := by
  obtain ⟨isPath, legal⟩ := path_of_locator located
  have passes {other : Char} (absent : other ∉ path.toList) :
      ∀ character ∈ path.toList, decide (character ≠ other) = true := by
    intro character member
    refine decide_eq_true ?_
    rintro rfl
    exact absent member
  intro character member
  apply legal
  rw [isPath, String.toList_ofList, withoutFragment,
    List.takeWhile_append_of_pos (passes unfragmented),
    List.takeWhile_append_of_pos (passes unqueried)]
  exact List.mem_append_left _ member

section Replacing

variable (proper : uri.Proper)

include proper

theorem Proper.path_characters :
    ∀ character ∈ uri.path.toList, isPathCharacter character = true := by
  obtain ⟨path, _, legal, isPath⟩ := proper.exists_pathAndQuery
  rw [← isPath]
  split
  · intro character member
    rw [List.mem_singleton.mp member]
    rfl
  · exact legal

theorem Proper.of_rebuild (rebuilt : uri.rebuild authority newLocator = .ok next) :
    next.Proper ∧ next.scheme = uri.scheme := by
  obtain ⟨_, _, scheme, located⟩ := parts_of_rebuild rebuilt
  obtain ⟨own, isScheme⟩ := Option.ne_none_iff_exists'.mp proper.schemed
  refine ⟨⟨?_, (path_of_locator located).2, isQuery_of_locator located⟩, ?_⟩
  · rw [scheme]
    nofun
  · rw [scheme, schemeOrHttp, isScheme]
    rfl

theorem reaims_of_rebuild (legal : ∀ character ∈ path.toList, isPathCharacter character = true)
    (rebuilt : uri.rebuild authority (locatorText path uri.query) = .ok next) :
    Reaims uri next authority (if path.isEmpty then "/" else path) := by
  obtain ⟨isAuthority, _⟩ := parts_of_rebuild rebuilt
  obtain ⟨other, same, reaims⟩ := reaims_rebuild proper isAuthority legal
  rw [rebuilt] at same
  cases same
  exact reaims

/-- Replacing the host changes the authority alone, whatever text is given for the host. -/
theorem Proper.of_withHost (replaced : uri.withHost host = .ok next) :
    Reaims uri next (authorityText host uri.port) uri.path := by
  obtain ⟨path, located, legal, samePath⟩ := proper.exists_pathAndQuery
  rw [Uri.withHost, located] at replaced
  rw [← samePath]
  exact reaims_of_rebuild proper legal replaced

theorem Proper.of_withPort {port : UInt16} (aimed : uri.host = some host)
    (replaced : uri.withPort port = .ok next) :
    Reaims uri next (authorityText host (some port)) uri.path := by
  obtain ⟨path, located, legal, samePath⟩ := proper.exists_pathAndQuery
  rw [Uri.withPort, aimed, located] at replaced
  rw [← samePath]
  exact reaims_of_rebuild proper legal replaced

/-- Replacing the path changes it alone if no query and no fragment starts in it. -/
theorem Proper.of_withPath (aimed : uri.authority = some authority)
    (unqueried : '?' ∉ path.toList) (unfragmented : '#' ∉ path.toList)
    (replaced : uri.withPath path = .ok next) : Reaims uri next authority (rooted path) := by
  rw [← mem_rooted_iff (by decide)] at unqueried unfragmented
  rw [withPath_eq aimed] at replaced
  obtain ⟨_, _, _, located⟩ := parts_of_rebuild replaced
  obtain ⟨rest, starts⟩ := exists_locatorText (rooted path) uri.query
  rw [starts] at located
  have reaims := reaims_of_rebuild proper (legal_of_locator unqueried unfragmented located) replaced
  rwa [rooted_isEmpty, if_neg Bool.false_ne_true] at reaims

end Replacing

section Ways

/-- A URI with the scheme that is meant where it has none. -/
def schemed (uri : Uri) : Uri := { uri with scheme := some uri.schemeOrHttp }

/-- Two URIs agree in the scheme, the port and the path that are meant. -/
structure SameWay (first second : Uri) : Prop where
  scheme : first.schemeOrHttp = second.schemeOrHttp
  port : first.port = second.port
  path : first.schemed.path = second.schemed.path

theorem SameWay.refl (uri : Uri) : SameWay uri uri := ⟨rfl, rfl, rfl⟩

theorem SameWay.trans {first second third : Uri} (earlier : SameWay first second)
    (later : SameWay second third) : SameWay first third where
  scheme := earlier.scheme.trans later.scheme
  port := earlier.port.trans later.port
  path := earlier.path.trans later.path

theorem schemed_eq_self {scheme : String} (isScheme : uri.scheme = some scheme) :
    uri.schemed = uri := by
  cases uri
  cases isScheme
  rfl

theorem schemed_path (uri : Uri) :
    uri.schemed.path = if uri.path.isEmpty then "/" else uri.path := by
  rw [path_of_schemed (by rw [schemed]; exact nofun)]
  unfold Uri.path
  cases empty : uri.writtenPath.isEmpty with
  | true => cases (uri.scheme.isSome || uri.query.isSome) <;> simp [schemed, empty]
  | false => simp [schemed, empty]

theorem SamePlace.sameWay {first second : Uri} (same : SamePlace first second) :
    SameWay first second where
  scheme := by rw [schemeOrHttp, schemeOrHttp, same.scheme]
  port := same.port
  path := by rw [schemed_path, schemed_path, same.path]

/-- With an address for its host, a URI leads to this address on the way that it names. -/
theorem sameWay_of_withHost {text : String} (read : Uri.parse text = .ok uri)
    (aimed : uri.authority ≠ none) {address : Net.Ipv4}
    (replaced : uri.withHost address.text = .ok next) :
    SameWay next uri ∧ next.host = some address.text := by
  have legalQuery := isQuery_of_parse read
  have proper : uri.schemed.Proper :=
    ⟨by rw [schemed]; exact nofun, ((readable_of_parse read).path aimed).characters, legalQuery⟩
  -- The host is replaced in the same way whether the scheme is written or only meant.
  have reaims : Reaims uri.schemed next (authorityText address.text uri.port) uri.schemed.path :=
    proper.of_withHost replaced
  have written : Net.Written (Net.bracketed address.text).toList := by
    rw [Net.bracketed_of_written (Net.written_text address)]
    exact Net.written_text address
  have isHost := isHostPart_of_written written
  refine ⟨⟨?_, port_of_authority uri.port isHost reaims.authority, ?_⟩, ?_⟩
  · rw [schemeOrHttp, reaims.scheme]
    rfl
  · rw [schemed_eq_self reaims.scheme, reaims.path]
  · rw [host_of_authority uri.port isHost reaims.authority,
      Net.bracketed_of_written (Net.written_text address)]

end Ways

end Uri
end RemoteCall
