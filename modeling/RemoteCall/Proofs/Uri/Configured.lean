import RemoteCall.Call.Entry
import RemoteCall.Proofs.Text.SmallForms
import RemoteCall.Proofs.Uri.Reaimed

/-!
# What a configured entry is read as

The scheme, the host and the port of an entry are put together to one text, and the text is read as
a whole.  So the URI has the parts that were configured only if each of them ends in the text where
the next one was put.  This is decided by the scheme and the host, for the port comes last: the
scheme has to consist of the characters of schemes, and the host has to be one that an authority
can have, without the delimiters that end an authority.  Of the other entries some are refused and
some are read as something else, because of a delimiter in the host or because the host has got
brackets for a colon.
-/

namespace RemoteCall
namespace Entry

open Uri

variable {entry : Entry} {uri : Uri}

/-- The host that is meant: the host in lower case, with brackets if it is an address of the longer
family that has none. -/
def meantHost (entry : Entry) : String :=
  if Net.isBareIpv6 entry.host then "[" ++ Text.lowercase entry.host ++ "]"
  else Text.lowercase entry.host

/-- A URI whose scheme, host and port are those that were configured. -/
structure Means (entry : Entry) (uri : Uri) : Prop where
  scheme : uri.scheme = some (Text.lowercase entry.scheme)
  host : uri.host = some entry.meantHost
  port : uri.port = some entry.port

/-- An entry whose scheme ends where the separator is put, and whose host ends where the port is
put. -/
structure Plain (entry : Entry) : Prop where
  scheme : ∀ character ∈ (Text.lowercase entry.scheme).toList, isSchemeCharacter character = true
  host : entry.meantHost = "" ∨ IsHostPart entry.meantHost.toList
  unended : ∀ character ∈ entry.meantHost.toList, endsAuthority character = false

section Writing

theorem toList_lowercase (text : String) :
    (Text.lowercase text).toList = Text.lowercaseAfter [] text.toList :=
  String.toList_ofList

theorem before_letters_portText (port : UInt16) :
    ∀ character ∈ portText (some port), character.toNat < 0x41 := by
  intro character member
  rcases List.mem_cons.mp member with rfl | digit
  · decide
  · have range := Text.isDigit_iff.mp (Text.isDigit_of_mem_toDigits _ character digit)
    omega

/-- Lower case maps the parts of the text one by one. -/
theorem toList_text (entry : Entry) :
    entry.text.toList = (Text.lowercase entry.scheme).toList ++
      ':' :: '/' :: '/' ::
        ((Text.lowercase entry.bracketedHost).toList ++ portText (some entry.port)) := by
  have written : (entry.scheme ++ "://" ++ entry.bracketedHost ++ ":" ++
      toString entry.port.toNat).toList = entry.scheme.toList ++
        ':' :: '/' :: '/' :: (entry.bracketedHost.toList ++ portText (some entry.port)) := by
    simp [portText]
  have separated (rest : List Char) : Text.nextIsCased (':' :: '/' :: rest) = false := rfl
  have slashed (rest : List Char) : Text.nextIsCased ('/' :: rest) = false := rfl
  have numbered := before_letters_portText entry.port
  have kept (earlier rest : List Char) :
      Text.lowercaseAfter earlier (':' :: '/' :: '/' :: rest) =
        ':' :: '/' :: '/' :: Text.lowercaseAfter ('/' :: '/' :: ':' :: earlier) rest := by
    simp only [Text.lowercaseAfter_cons,
      Text.smallAt_of_lt (by decide : (':' : Char).toNat < 0x41),
      Text.smallAt_of_lt (by decide : ('/' : Char).toNat < 0x41)]
    rfl
  rw [text, toList_lowercase, written, toList_lowercase, toList_lowercase]
  rw [Text.lowercaseAfter_append (separated _), kept]
  congr 4
  rw [Text.lowercaseAfter_append (Text.nextIsCased_of_lt numbered),
    Text.lowercaseAfter_of_lt numbered]
  congr 1
  exact Text.lowercaseAfter_context (slashed _) [] _

theorem lowercase_brackets (host : String) :
    Text.lowercase ("[" ++ host ++ "]") = "[" ++ Text.lowercase host ++ "]" := by
  rw [← String.toList_inj, toList_lowercase]
  have opening (rest : List Char) : Text.lowercaseAfter [] ('[' :: rest) =
      '[' :: Text.lowercaseAfter ['['] rest := rfl
  have closing (earlier : List Char) : Text.lowercaseAfter earlier [']'] = [']'] := rfl
  have caseless : Text.nextIsCased [']'] = false := rfl
  have bracketed : ("[" ++ host ++ "]").toList = '[' :: (host.toList ++ [']']) := by simp
  rw [bracketed, opening, Text.lowercaseAfter_append caseless, closing]
  have alone := Text.lowercaseAfter_context (rfl : Text.nextIsCased ['['] = false) [] host.toList
  rw [List.nil_append] at alone
  rw [alone]
  simp [toList_lowercase]

end Writing

section Hosts

/-- A bare address of the longer family gets brackets. -/
theorem bracketedHost_of_isBareIpv6 (bare : Net.isBareIpv6 entry.host = true) :
    entry.bracketedHost = "[" ++ entry.host ++ "]" := by
  obtain ⟨address, read⟩ := Option.isSome_iff_exists.mp bare
  have spelled := Net.Ipv6.spelled_of_ofChars? read
  have colon : entry.host.toList.contains ':' = true :=
    List.contains_iff_mem.mpr
      (List.count_pos_iff.mp (Nat.lt_of_lt_of_le (by decide) spelled.least))
  have unbracketed : entry.host.toList.head? ≠ some '[' := fun isHead =>
    spelled.ne (List.mem_of_mem_head? isHead) (by decide) (by decide) rfl
  rw [bracketedHost, colon, Bool.true_and, if_pos (bne_iff_ne.mpr unbracketed)]

theorem bracketedHost_cases (entry : Entry) :
    entry.bracketedHost = entry.host ∨
      ':' ∈ entry.host.toList ∧ entry.host.toList.head? ≠ some '[' := by
  unfold bracketedHost
  split
  · next guessed =>
      rw [Bool.and_eq_true, List.contains_iff_mem, bne_iff_ne] at guessed
      exact Or.inr guessed
  · exact Or.inl rfl

/-- The host is written as it is meant wherever what is meant can be read as a host: a colon in
what is no address keeps it from being one. -/
theorem lowercase_bracketedHost (host : entry.meantHost = "" ∨ IsHostPart entry.meantHost.toList) :
    Text.lowercase entry.bracketedHost = entry.meantHost := by
  cases bare : Net.isBareIpv6 entry.host with
  | true => rw [bracketedHost_of_isBareIpv6 bare, lowercase_brackets, meantHost, if_pos bare]
  | false =>
      have meant : entry.meantHost = Text.lowercase entry.host := by
        rw [meantHost, bare]
        rfl
      rw [meant] at host ⊢
      rcases bracketedHost_cases entry with same | ⟨colon, unbracketed⟩
      · rw [same]
      · have kept : ':' ∈ (Text.lowercase entry.host).toList := by
          rw [toList_lowercase]
          exact Text.mem_lowercaseAfter_of_lt (by decide) colon
        rcases host with empty | isHost
        · rw [empty] at kept
          cases kept
        · -- A host part with a colon starts with a bracket, and then so does the host.
          generalize form : (Text.lowercase entry.host).toList = characters at kept isHost
          cases isHost with
          | name _ _ unparted => exact absurd kept unparted
          | brackets =>
              refine absurd ?_ unbracketed
              rw [toList_lowercase] at form
              exact Text.head?_of_head?_lowercaseAfter (by decide) (by rw [form]; rfl)

theorem mem_of_mem_hostOf {authority : List Char} {character : Char}
    (member : character ∈ hostOf authority) : character ∈ authority ∨ character = ']' := by
  have inside : ∀ other ∈ hostAndPort authority, other ∈ authority := by
    intro other isIn
    rw [hostAndPort, List.mem_reverse] at isIn
    exact List.mem_reverse.mp ((List.takeWhile_subset _) isIn)
  unfold hostOf at member
  split at member
  · next later whole =>
      rw [whole] at inside
      rcases List.mem_cons.mp member with rfl | member
      · exact Or.inl (inside _ List.mem_cons_self)
      · rcases List.mem_append.mp member with member | isLast
        · exact Or.inl (inside _ (List.mem_cons_of_mem _ ((List.takeWhile_subset _) member)))
        · exact Or.inr (List.mem_singleton.mp isLast)
  · exact Or.inl (inside _ ((List.takeWhile_subset _) member))

/-- A host that is followed by a port is found again, also if it is empty. -/
theorem hostOf_meantHost (host : entry.meantHost = "" ∨ IsHostPart entry.meantHost.toList) :
    hostOf (entry.meantHost.toList ++ portText (some entry.port)) = entry.meantHost.toList := by
  rcases host with empty | isHost
  · have unowned : '@' ∉ portText (some entry.port) := fun member =>
      Net.ne_of_test (isHostCharacter_portText _ '@' member) (by decide) rfl
    rw [empty, String.toList_empty, List.nil_append, hostOf, hostAndPort_eq_self unowned]
    rfl
  · exact hostOf_append isHost (some entry.port)

end Hosts

section Reading

/-- A scheme without capitals, as it is read. -/
theorem isScheme_of_small {scheme : String}
    (legal : ∀ character ∈ scheme.toList, isSchemeCharacter character = true)
    (small : ∀ character ∈ scheme.toList, ¬character.isUpper = true)
    (short : scheme.toList.length ≤ schemeLimit) : IsScheme scheme := by
  have lowered : scheme.toList.map Char.toLower = scheme.toList := by
    refine (List.map_congr_left fun character member => ?_).trans (List.map_id _)
    have same := Text.toNat_toLower character
    rw [if_neg (small character member)] at same
    exact Char.toNat_inj.mp same
  refine ⟨legal, short, fun same => ?_, fun same => ?_⟩
  · exact String.toList_inj.mp (lowered.symm.trans same)
  · exact String.toList_inj.mp (lowered.symm.trans same)

/-- A scheme that is too long is refused. -/
theorem splitScheme_of_long {scheme : List Char}
    (legal : ∀ character ∈ scheme, isSchemeCharacter character = true)
    (long : schemeLimit < scheme.length) (rest : List Char) :
    splitScheme (scheme ++ ':' :: '/' :: '/' :: rest) = .error .schemeTooLong := by
  have unnamed (name : List Char) (plain : ':' ∉ name) (few : name.length ≤ schemeLimit) :
      afterLowercase? (name ++ "://".toList) (scheme ++ ':' :: '/' :: '/' :: rest) = none := by
    refine Option.eq_none_iff_forall_not_mem.mpr fun found matched => ?_
    have named := lowered_of_afterLowercase? name plain legal matched
    rw [← named, List.length_map] at few
    exact absurd few (Nat.not_le.mpr long)
  have stops (character : Char)
      (isHead : (':' :: '/' :: '/' :: rest).head? = some character) :
      isSchemeCharacter character = false := by
    cases isHead
    decide
  have more : ¬(scheme ++ ':' :: '/' :: '/' :: rest).length ≤ 3 := by
    simp only [List.length_append, List.length_cons, schemeLimit] at long ⊢
    omega
  have http := unnamed "http".toList (by decide) (by decide)
  have https := unnamed "https".toList (by decide) (by decide)
  unfold splitScheme
  rw [show "http://".toList = "http".toList ++ "://".toList from rfl, http]
  dsimp only
  rw [show "https://".toList = "https".toList ++ "://".toList from rfl, https]
  dsimp only
  rw [if_neg more, takeWhile_append_of_stops legal stops, dropWhile_append_of_stops legal stops]
  exact if_pos long

/-- What is read after a scheme: an authority up to the first character that ends one, and then a
path and a query. -/
theorem exists_of_ofAbsolute {scheme : String} (isScheme : IsScheme scheme) {rest : List Char}
    (more : rest ≠ [])
    (read : ofAbsolute (scheme.toList ++ ':' :: '/' :: '/' :: rest) = .ok uri) :
    ∃ found, locator (rest.dropWhile fun character => !endsAuthority character) = .ok found ∧
      uri = ⟨some scheme,
        some (String.ofList (rest.takeWhile fun character => !endsAuthority character)),
        found.path, found.query⟩ := by
  cases absoluteForm_of_ofAbsolute read with
  | unschemed unnamed =>
      rw [splitScheme_append isScheme more] at unnamed
      cases unnamed
  | schemed named _ split located =>
      rw [splitScheme_append isScheme more] at named
      cases named
      obtain ⟨isAuthority, isRest, _⟩ := splitAuthority_parts split
      exact ⟨_, by rw [← isRest, located], by rw [← isAuthority]⟩

theorem parse_of_uri (accepted : entry.uri = .ok uri) : Uri.parse entry.text = .ok uri := by
  unfold Entry.uri at accepted
  split at accepted
  · next read =>
      cases accepted
      exact read
  · cases accepted

/-- The configured text has a scheme, so it is read as an absolute URI. -/
theorem ofAbsolute_of_uri (accepted : entry.uri = .ok uri)
    (legal : ∀ character ∈ (Text.lowercase entry.scheme).toList,
      isSchemeCharacter character = true) :
    ofAbsolute ((Text.lowercase entry.scheme).toList ++ ':' :: '/' :: '/' ::
      ((Text.lowercase entry.bracketedHost).toList ++ portText (some entry.port))) = .ok uri := by
  have read := parse_of_uri accepted
  have within := within_of_parse read
  have characters := toList_text entry
  cases start : (Text.lowercase entry.scheme).toList with
  | nil =>
      rw [start] at characters
      rw [← read]
      exact (parse_eq_ofAbsolute characters (by decide) within).symm
  | cons first others =>
      have unrooted : first ≠ '/' := by
        rintro rfl
        have slash := legal '/' (by rw [start]; exact List.mem_cons_self)
        revert slash
        decide
      rw [start] at characters
      rw [← read]
      cases others with
      | nil => exact (parse_eq_ofAbsolute characters unrooted within).symm
      | cons second others => exact (parse_eq_ofAbsolute characters unrooted within).symm

/-- The authority of an accepted entry is what stands between its scheme and the first character
that ends an authority. -/
theorem parts_of_uri (accepted : entry.uri = .ok uri)
    (legal : ∀ character ∈ (Text.lowercase entry.scheme).toList,
      isSchemeCharacter character = true) :
    let rest := (Text.lowercase entry.bracketedHost).toList ++ portText (some entry.port)
    ∃ found, locator (rest.dropWhile fun character => !endsAuthority character) = .ok found ∧
      uri = ⟨some (Text.lowercase entry.scheme),
        some (String.ofList (rest.takeWhile fun character => !endsAuthority character)),
        found.path, found.query⟩ := by
  intro rest
  have read := ofAbsolute_of_uri accepted legal
  have more : rest ≠ [] := List.append_ne_nil_of_right_ne_nil _ (List.cons_ne_nil _ _)
  have small : ∀ character ∈ (Text.lowercase entry.scheme).toList, ¬character.isUpper = true := by
    intro character member upper
    have capital := (Text.isUpper_iff.mp upper).2
    rw [toList_lowercase] at member
    have before : character.toNat < Text.firstSmall := by
      rw [Text.firstSmall]
      omega
    exact (Text.of_mem_lowercaseAfter before member).2 upper
  have short : (Text.lowercase entry.scheme).toList.length ≤ schemeLimit := by
    refine Nat.not_lt.mp fun long => ?_
    unfold ofAbsolute at read
    rw [splitScheme_of_long legal long] at read
    cases read
  exact exists_of_ofAbsolute (isScheme_of_small legal small short) more read

end Reading

/-- An accepted entry whose parts end where they should is read as its parts, with nothing after
them. -/
theorem Plain.uri_eq (plain : Plain entry) (accepted : entry.uri = .ok uri) :
    uri = ⟨some (Text.lowercase entry.scheme),
      some (String.ofList (entry.meantHost.toList ++ portText (some entry.port))), "", none⟩ := by
  obtain ⟨found, located, isUri⟩ := parts_of_uri accepted plain.scheme
  have inside : ∀ character ∈ entry.meantHost.toList ++ portText (some entry.port),
      (!endsAuthority character) = true := by
    intro character member
    rw [Bool.not_eq_true']
    rcases List.mem_append.mp member with inHost | inPort
    · exact plain.unended character inHost
    · exact not_endsAuthority_of_isHostCharacter (isHostCharacter_portText _ character inPort)
  rw [lowercase_bracketedHost plain.host, List.takeWhile_eq_self_iff.mpr inside] at isUri
  rw [lowercase_bracketedHost plain.host, List.dropWhile_eq_nil_iff.mpr inside] at located
  cases located
  exact isUri

theorem Plain.means (plain : Plain entry) (accepted : entry.uri = .ok uri) : Means entry uri := by
  have isUri := plain.uri_eq accepted
  subst isUri
  refine ⟨rfl, ?_, ?_⟩
  · rw [Uri.host, Option.map_some, String.toList_ofList, hostOf_meantHost plain.host,
      String.ofList_toList]
  · rw [Uri.port, Option.bind_some, String.toList_ofList, portOf_port]

theorem Means.plain (means : Means entry uri) (accepted : entry.uri = .ok uri) : Plain entry := by
  have isScheme := (readable_of_parse (parse_of_uri accepted)).scheme _ means.scheme
  obtain ⟨found, _, rfl⟩ := parts_of_uri accepted isScheme.characters
  have isHost := means.host
  rw [Uri.host, Option.map_some, String.toList_ofList] at isHost
  have same := (String.toList_ofList).symm.trans
    (congrArg String.toList (Option.some.inj isHost))
  refine ⟨isScheme.characters, ?_, fun character member => ?_⟩
  · by_cases empty : entry.meantHost = ""
    · exact Or.inl empty
    · refine Or.inr ?_
      rw [← same]
      refine isHostPart_hostOf ?_
      rw [same]
      simpa using empty
  · rw [← same] at member
    rcases mem_of_mem_hostOf member with inside | rfl
    · simpa using List.mem_takeWhile_imp inside
    · decide

section Accepting

theorem lt_of_isHostCharacter {character : Char} (host : Net.isHostCharacter character = true) :
    character.toNat < 128 := by
  simp only [Net.isHostCharacter, Net.isNameCharacter, Bool.or_eq_true, beq_iff_eq,
    Text.isAlphanum_iff] at host
  rcases host with ((((ranges | rfl) | rfl) | rfl) | rfl) | rfl
  · omega
  all_goals decide

theorem isNameCharacter_toLower {character : Char} (name : Net.isNameCharacter character = true) :
    Net.isNameCharacter character.toLower = true := by
  simp only [Net.isNameCharacter, Bool.or_eq_true, beq_iff_eq] at name ⊢
  rcases name with (alphanum | rfl) | rfl
  · refine Or.inl (Or.inl ?_)
    have small := Text.toNat_toLower character
    rw [Text.isAlphanum_iff] at alphanum ⊢
    split at small
    · next upper =>
        have capital := Text.isUpper_iff.mp upper
        omega
    · next lower =>
        rw [Text.isUpper_iff] at lower
        omega
  · decide
  · decide

theorem count_map_toLower (text : List Char) :
    (text.map Char.toLower).count ':' = text.count ':' := by
  rw [List.count_eq_countP, List.count_eq_countP, List.countP_map]
  refine List.countP_congr fun character _ => ?_
  simp only [Function.comp_apply, beq_iff_eq]
  refine ⟨eq_colon_of_toLower, ?_⟩
  rintro rfl
  rfl

/-- Hosts are written in lower case as they are in capitals. -/
theorem written_map_toLower {text : List Char} (written : Net.Written text) :
    Net.Written (text.map Char.toLower) := by
  cases written with
  | name nonempty names =>
      refine .name (by simpa using nonempty) fun character member => ?_
      obtain ⟨before, isIn, rfl⟩ := List.mem_map.mp member
      exact isNameCharacter_toLower (names before isIn)
  | @brackets inner spelled =>
      have mapped : ('[' :: (inner ++ [']'])).map Char.toLower =
          '[' :: (inner.map Char.toLower ++ [']']) := by
        rw [List.map_cons, List.map_append]
        rfl
      rw [mapped]
      refine .brackets ⟨fun character member => ?_, ?_, ?_⟩
      · obtain ⟨before, isIn, rfl⟩ := List.mem_map.mp member
        rcases spelled.characters before isIn with rfl | name
        · exact Or.inl rfl
        · exact Or.inr (isNameCharacter_toLower name)
      · rw [count_map_toLower]
        exact spelled.least
      · rw [count_map_toLower]
        exact spelled.greatest

theorem meantHost_eq (entry : Entry) :
    entry.meantHost = Text.lowercase (Net.bracketed entry.host) := by
  unfold meantHost Net.bracketed
  split
  · rw [lowercase_brackets]
  · rfl

theorem written_meantHost (isHost : Net.IsHost entry.host) :
    Net.Written entry.meantHost.toList := by
  have written := Net.written_bracketed isHost
  have ascii : ∀ character ∈ (Net.bracketed entry.host).toList, character.toNat < 128 :=
    fun character member => lt_of_isHostCharacter (written.isHostCharacter character member)
  rw [meantHost_eq, toList_lowercase, Text.lowercaseAfter_of_ascii ascii]
  exact written_map_toLower written

/-- An entry with a scheme of the web and a name or an address as its host is accepted, unless it
is too long. -/
theorem exists_uri_of_isHost (isHost : Net.IsHost entry.host)
    (web : Text.lowercase entry.scheme = "http" ∨ Text.lowercase entry.scheme = "https")
    (within : entry.text.utf8ByteSize ≤ lengthLimit) :
    Plain entry ∧ ∃ uri, entry.uri = .ok uri := by
  have written := written_meantHost isHost
  have isScheme : IsScheme (Text.lowercase entry.scheme) := by
    rcases web with http | https
    · rw [http]
      exact isScheme_http
    · rw [https]
      exact isScheme_https
  have plain : Plain entry := by
    refine ⟨isScheme.characters, Or.inr (isHostPart_of_written written), ?_⟩
    exact fun character member =>
      not_endsAuthority_of_isHostCharacter (written.isHostCharacter character member)
  have isText : entry.text = Text.lowercase entry.scheme ++ "://" ++
      String.ofList (entry.meantHost.toList ++ portText (some entry.port)) ++ "" := by
    rw [← String.toList_inj, toList_text, lowercase_bracketedHost plain.host]
    simp
  have read := parse_parts isScheme (isAuthority_written written (some entry.port)) isPath_empty
    (isText ▸ within)
  rw [← isText] at read
  exact ⟨plain, _, by rw [Entry.uri, read]⟩

end Accepting

/-- An accepted entry is read as what was configured exactly if its scheme consists of characters
of schemes and its host is one that an authority can have, without a character that ends one.  Then
nothing else is read from it: the path is the root, and there is no query.  Names and addresses with
a scheme of the web are accepted and read as they are meant, unless the text is too long. -/
theorem means_iff_plain (entry : Entry) :
    (∀ uri, entry.uri = .ok uri →
      (Means entry uri ↔ Plain entry) ∧ (Plain entry → uri.path = "/" ∧ uri.query = none)) ∧
    (Net.IsHost entry.host →
      Text.lowercase entry.scheme = "http" ∨ Text.lowercase entry.scheme = "https" →
        entry.text.utf8ByteSize ≤ lengthLimit → ∃ uri, entry.uri = .ok uri ∧ Means entry uri) := by
  constructor
  · intro uri accepted
    refine ⟨⟨fun means => means.plain accepted, fun plain => plain.means accepted⟩,
      fun plain => ?_⟩
    rw [plain.uri_eq accepted]
    exact ⟨rfl, rfl⟩
  · intro isHost web within
    obtain ⟨plain, uri, accepted⟩ := exists_uri_of_isHost isHost web within
    exact ⟨uri, accepted, plain.means accepted⟩

/-- A bare address of the longer family, in capitals. -/
theorem means_iff_plain_bare :
    let entry : Entry := ⟨"HTTP", "FE80::1", 8181⟩
    Net.IsHost entry.host ∧ entry.meantHost = "[fe80::1]" ∧
      ∃ uri, entry.uri = .ok uri ∧ Means entry uri ∧ Plain entry := by
  intro entry
  have isHost : Net.IsHost entry.host := by
    obtain ⟨address, read⟩ := Option.isSome_iff_exists.mp
      (by decide : (Net.Ipv6.ofChars? "FE80::1".toList).isSome = true)
    exact .ipv6 read
  have http : Text.lowercase entry.scheme = "http" := by decide +kernel
  have within : entry.text.utf8ByteSize ≤ lengthLimit := by decide +kernel
  obtain ⟨read, accepts⟩ := means_iff_plain entry
  obtain ⟨uri, accepted, means⟩ := accepts isHost (Or.inl http) within
  exact ⟨isHost, by decide +kernel, uri, accepted, means, (read uri accepted).1.mp means⟩

/-- A name with a port in it gets brackets, as if it were an address, and is accepted. -/
theorem not_means_name_with_port :
    let entry : Entry := ⟨"http", "relay:9090", 8080⟩
    ∃ uri, entry.uri = .ok uri ∧ uri.host = some "[relay:9090]" ∧
      Net.isBareIpv6 entry.host = false ∧ ¬Means entry uri := by
  intro entry
  have accepted : entry.uri = .ok ⟨some "http", some "[relay:9090]:8080", "", none⟩ := by
    decide +kernel
  have meant : entry.meantHost = "relay:9090" := by decide +kernel
  refine ⟨_, accepted, rfl, by decide +kernel, fun means => ?_⟩
  have host := means.host
  rw [meant] at host
  revert host
  decide

end Entry
end RemoteCall
