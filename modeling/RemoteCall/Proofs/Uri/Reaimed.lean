import RemoteCall.Proofs.Net.Address
import RemoteCall.Proofs.Uri.Target

/-!
# Re-aimed URIs

Replacing a part of a URI writes the whole of it anew and reads it again.  An authority that is
written for a host and a port passes the check of authorities, and the host and the port are found
in it again; a path and a query that were read once are read in the same way again.  So each
replacement of a part succeeds, and changes this part and nothing else.
-/

namespace RemoteCall
namespace Uri

section Authorities

theorem isAuthorityCharacter_of_name {character : Char}
    (name : Net.isNameCharacter character = true) : isAuthorityCharacter character = true := by
  simp only [Net.isNameCharacter, Bool.or_eq_true, beq_iff_eq] at name
  rcases name with (alphanum | rfl) | rfl
  · rw [isAuthorityCharacter, alphanum, Bool.true_or]
  · decide
  · decide

theorem step_name {character : Char} (name : Net.isNameCharacter character = true)
    (scan : AuthorityScan) : scan.step character = .ok { scan with endsWithAt := false } := by
  have differs {other : Char} (unnamed : Net.isNameCharacter other = false) : character ≠ other :=
    Net.ne_of_test name unnamed
  rw [AuthorityScan.step, if_neg (differs (by decide)), if_neg (differs (by decide)),
    if_neg (differs (by decide)), if_neg (differs (by decide)), if_neg (differs (by decide)),
    if_pos (isAuthorityCharacter_of_name name)]

theorem step_colon {scan : AuthorityScan} (room : scan.colons < colonLimit) :
    scan.step ':' = .ok { scan with colons := scan.colons + 1, endsWithAt := false } := by
  rw [AuthorityScan.step, if_pos rfl, if_neg (Nat.not_le.mpr room)]

/-- The characters of names are passed over, and colons between them are counted. -/
theorem foldlM_step {text : List Char}
    (characters : ∀ character ∈ text, character = ':' ∨ Net.isNameCharacter character = true)
    {scan : AuthorityScan} (room : scan.colons + text.count ':' ≤ colonLimit)
    (unended : scan.endsWithAt = false) :
    text.foldlM AuthorityScan.step scan =
      .ok { scan with colons := scan.colons + text.count ':' } := by
  induction text generalizing scan with
  | nil => rfl
  | cons first later ih =>
      have others : ∀ character ∈ later, character = ':' ∨ Net.isNameCharacter character = true :=
        fun character member => characters character (by simp [member])
      obtain ⟨colons, opened, closed, percent, endsWithAt⟩ := scan
      dsimp only at room unended
      subst unended
      rw [List.foldlM_cons]
      rcases characters first (by simp) with rfl | name
      · rw [List.count_cons_self] at room ⊢
        rw [step_colon (by change colons < colonLimit; omega)]
        refine (ih others (by change colons + 1 + _ ≤ _; omega) rfl).trans ?_
        rw [Nat.add_right_comm, Nat.add_assoc]
      · have named : first ≠ ':' := Net.ne_of_test name (by decide)
        rw [List.count_cons_of_ne named] at room ⊢
        rw [step_name name]
        exact ih others room rfl

theorem count_colon_of_names {text : List Char}
    (names : ∀ character ∈ text, Net.isNameCharacter character = true) : text.count ':' = 0 := by
  refine List.count_eq_zero.mpr fun member => ?_
  exact Net.ne_of_test (names ':' member) (by decide) rfl

/-- After a host an authority may end, and no colon counts. -/
theorem foldlM_written {text : List Char} (written : Net.Written text) :
    ∃ scan, text.foldlM AuthorityScan.step .start = .ok scan ∧ scan.colons = 0 ∧
      scan.endsWithAt = false ∧ scan.isComplete = true := by
  cases written with
  | name nonempty names =>
      have none := count_colon_of_names names
      have room : AuthorityScan.start.colons + text.count ':' ≤ colonLimit := by
        rw [none]
        exact Nat.zero_le colonLimit
      refine ⟨.start, ?_, rfl, rfl, rfl⟩
      rw [foldlM_step (fun character member => Or.inr (names character member)) room rfl, none]
      rfl
  | @brackets inner spelled =>
      refine ⟨⟨0, true, true, false, false⟩, ?_, rfl, rfl, rfl⟩
      have inside : inner.foldlM AuthorityScan.step ⟨0, true, false, false, false⟩ =
          .ok ⟨0 + inner.count ':', true, false, false, false⟩ :=
        foldlM_step spelled.characters (by rw [Nat.zero_add]; exact spelled.greatest) rfl
      change (inner ++ [']']).foldlM AuthorityScan.step ⟨0, true, false, false, false⟩ = _
      rw [List.foldlM_append, inside]
      rfl

/-- A port as it follows a host. -/
def portText : Option UInt16 → List Char
  | none => []
  | some port => ':' :: Nat.toDigits 10 port.toNat

theorem toList_authorityText (host : String) (port : Option UInt16) :
    (authorityText host port).toList = (Net.bracketed host).toList ++ portText port := by
  cases port with
  | none => simp [authorityText, portText]
  | some port => simp [authorityText, portText]

theorem isNameCharacter_of_isDigit {character : Char} (digit : character.isDigit = true) :
    Net.isNameCharacter character = true := by
  simp [Net.isNameCharacter, Char.isAlphanum, digit]

theorem portText_characters (port : Option UInt16) :
    ∀ character ∈ portText port, character = ':' ∨ Net.isNameCharacter character = true := by
  cases port with
  | none => exact nofun
  | some port =>
      intro character member
      rcases List.mem_cons.mp member with isColon | digit
      · exact Or.inl isColon
      · exact Or.inr (isNameCharacter_of_isDigit (Text.isDigit_of_mem_toDigits _ character digit))

theorem isHostCharacter_portText (port : Option UInt16) :
    ∀ character ∈ portText port, Net.isHostCharacter character = true := by
  intro character member
  rcases portText_characters port character member with rfl | name
  · rfl
  · simp [Net.isHostCharacter, name]

theorem not_endsAuthority_of_isHostCharacter {character : Char}
    (host : Net.isHostCharacter character = true) : endsAuthority character = false := by
  have slash : character ≠ '/' := Net.ne_of_test host (by decide)
  have question : character ≠ '?' := Net.ne_of_test host (by decide)
  have hash : character ≠ '#' := Net.ne_of_test host (by decide)
  simp [endsAuthority, slash, question, hash]

theorem count_portText (port : Option UInt16) : (portText port).count ':' ≤ 1 := by
  cases port with
  | none => exact Nat.zero_le 1
  | some port =>
      have none : (Nat.toDigits 10 port.toNat).count ':' = 0 :=
        count_colon_of_names fun character member =>
          isNameCharacter_of_isDigit (Text.isDigit_of_mem_toDigits _ character member)
      simp [portText, none]

theorem nonempty_of_written {text : List Char} (written : Net.Written text) : text ≠ [] := by
  cases written with
  | name nonempty => exact nonempty
  | brackets => exact List.cons_ne_nil _ _

/-- What can be the host of an authority, apart from the empty text. -/
inductive IsHostPart : List Char → Prop where
  | name {text : List Char} (nonempty : text ≠ []) (unbracketed : text.head? ≠ some '[')
      (unparted : ':' ∉ text) (unowned : '@' ∉ text) : IsHostPart text
  | brackets {text : List Char} (closed : ']' ∉ text) (unowned : '@' ∉ text) :
      IsHostPart ('[' :: (text ++ [']']))

theorem hostAndPort_eq_self {authority : List Char} (unowned : '@' ∉ authority) :
    hostAndPort authority = authority := by
  have all : ∀ character ∈ authority.reverse, decide (character ≠ '@') = true := by
    intro character member
    refine decide_eq_true ?_
    rintro rfl
    exact unowned (List.mem_reverse.mp member)
  rw [hostAndPort, List.takeWhile_eq_self_iff.mpr all, List.reverse_reverse]

theorem not_mem_hostAndPort (authority : List Char) : '@' ∉ hostAndPort authority := by
  intro member
  rw [hostAndPort, List.mem_reverse] at member
  have unowned := List.mem_takeWhile_imp member
  simp at unowned

/-- Whatever an authority is, its host is the host of some authority. -/
theorem isHostPart_hostOf {authority : List Char} (nonempty : hostOf authority ≠ []) :
    IsHostPart (hostOf authority) := by
  have unowned := not_mem_hostAndPort authority
  unfold hostOf at nonempty ⊢
  split at nonempty
  · next later whole =>
      rw [whole] at unowned
      refine .brackets (fun member => ?_) fun member => ?_
      · have closed := List.mem_takeWhile_imp member
        simp at closed
      · exact unowned (List.mem_cons_of_mem _ ((List.takeWhile_subset _) member))
  · next unbracketed =>
      refine .name nonempty (fun isHead => ?_) (fun member => ?_) fun member => ?_
      · rw [List.head?_takeWhile] at isHead
        obtain ⟨isHead, _⟩ := Option.filter_eq_some_iff.mp isHead
        obtain ⟨later, whole⟩ := List.head?_eq_some_iff.mp isHead
        exact unbracketed later whole
      · have unparted := List.mem_takeWhile_imp member
        simp at unparted
      · exact unowned ((List.takeWhile_subset _) member)

/-- Whatever is written before a port, the port is found again. -/
theorem portOf_port (text : List Char) (port : UInt16) :
    portOf (text ++ portText (some port)) = some port := by
  have colon : (text ++ portText (some port)).contains ':' = true := by
    simp [portText]
  have digits : ∀ character ∈ (Nat.toDigits 10 port.toNat).reverse,
      decide (character ≠ ':') = true := by
    intro character member
    have digit := Text.isDigit_of_mem_toDigits _ character (List.mem_reverse.mp member)
    exact decide_eq_true (Net.ne_of_test digit (by decide))
  have stops (character : Char) (isHead : (':' :: text.reverse).head? = some character) :
      decide (character ≠ ':') = false := by
    cases isHead
    rfl
  have reversed : (text ++ portText (some port)).reverse =
      (Nat.toDigits 10 port.toNat).reverse ++ ':' :: text.reverse := by
    simp [portText]
  have read : Text.readNatural? 0x10000 (String.ofList (Nat.toDigits 10 port.toNat)) =
      some port.toNat :=
    Text.readNatural?_of_digits (Text.isDigit_of_mem_toDigits _) (Text.digitsValue?_toDigits _)
      port.toNat_lt
  rw [portOf, if_pos colon]
  dsimp only
  rw [reversed, takeWhile_append_of_stops digits stops, List.reverse_reverse, read]
  simp

section HostParts

variable {text : List Char} (isHost : IsHostPart text) (port : Option UInt16)

include isHost

theorem IsHostPart.nonempty : text ≠ [] := by
  cases isHost with
  | name nonempty => exact nonempty
  | brackets => exact List.cons_ne_nil _ _

theorem IsHostPart.unowned : '@' ∉ text := by
  cases isHost with
  | name _ _ _ unowned => exact unowned
  | brackets _ unowned => simpa using unowned

theorem hostAndPort_append : hostAndPort (text ++ portText port) = text ++ portText port := by
  refine hostAndPort_eq_self fun member => ?_
  rcases List.mem_append.mp member with inHost | inPort
  · exact isHost.unowned inHost
  · exact Net.ne_of_test (isHostCharacter_portText port '@' inPort) (by decide) rfl

/-- The host is found again. -/
theorem hostOf_append : hostOf (text ++ portText port) = text := by
  have whole := hostAndPort_append isHost port
  unfold hostOf
  rw [whole]
  cases isHost with
  | name nonempty unbracketed unparted =>
      have stops (character : Char) (isHead : (portText port).head? = some character) :
          decide (character ≠ ':') = false := by
        cases port with
        | none => cases isHead
        | some port =>
            cases isHead
            rfl
      split
      · next later bracket =>
          cases text with
          | nil => exact absurd rfl nonempty
          | cons first others =>
              cases bracket
              exact absurd rfl unbracketed
      · refine takeWhile_append_of_stops (fun character member => decide_eq_true ?_) stops
        rintro rfl
        exact unparted member
  | @brackets inner closed =>
      have inside : ∀ character ∈ inner, decide (character ≠ ']') = true := by
        intro character member
        refine decide_eq_true ?_
        rintro rfl
        exact closed member
      have closes (character : Char) (isHead : (']' :: portText port).head? = some character) :
          decide (character ≠ ']') = false := by
        cases isHead
        rfl
      have found := takeWhile_append_of_stops inside closes
      change '[' :: ((inner ++ [']'] ++ portText port).takeWhile (· ≠ ']') ++ [']']) = _
      rw [List.append_assoc, List.singleton_append, found]

/-- The port is found again, and none is found where none was written. -/
theorem portOf_append : portOf (text ++ portText port) = port := by
  cases port with
  | some port => exact portOf_port text port
  | none =>
      rw [portText, List.append_nil]
      cases isHost with
      | name _ _ unparted =>
          rw [portOf, if_neg (by simpa using unparted)]
      | @brackets inner =>
          rw [portOf]
          split
          · -- What follows the last colon ends with the closing bracket, so it is no number.
            dsimp only
            rw [Option.map_eq_none_iff, ← Option.not_isSome_iff_eq_none]
            intro isNumber
            obtain ⟨number, read⟩ := Option.isSome_iff_exists.mp isNumber
            have digits := Text.isDigit_of_readNatural? read ']' (by simp)
            exact absurd digits (by decide)
          · rfl

end HostParts

section Written

variable {text : List Char} (written : Net.Written text) (port : Option UInt16)

include written

theorem isHostCharacter_of_written :
    ∀ character ∈ text ++ portText port, Net.isHostCharacter character = true := by
  intro character member
  rcases List.mem_append.mp member with inHost | inPort
  · exact written.isHostCharacter character inHost
  · exact isHostCharacter_portText port character inPort

/-- What is written for a host and a port is an authority. -/
theorem isAuthority_written : IsAuthority (String.ofList (text ++ portText port)) := by
  constructor
  · rw [String.toList_ofList]
    exact List.append_ne_nil_of_left_ne_nil (nonempty_of_written written) _
  · rw [String.toList_ofList]
    intro character member
    exact not_endsAuthority_of_isHostCharacter
      (isHostCharacter_of_written written port character member)
  · obtain ⟨scan, scanned, unparted, unended, complete⟩ := foldlM_written written
    have room : scan.colons + (portText port).count ':' ≤ 1 := by
      rw [unparted, Nat.zero_add]
      exact count_portText port
    refine ⟨{ scan with colons := scan.colons + (portText port).count ':' }, ?_, ?_⟩
    · rw [String.toList_ofList, List.foldlM_append, scanned]
      exact foldlM_step (portText_characters port) (Nat.le_trans room (by decide)) unended
    · simp only [AuthorityScan.isComplete, Bool.and_eq_true] at complete ⊢
      exact ⟨⟨⟨complete.1.1.1, decide_eq_true room⟩, complete.1.2⟩, complete.2⟩

theorem isHostPart_of_written : IsHostPart text := by
  have unowned : '@' ∉ text := fun member =>
    absurd rfl (Net.ne_of_test (written.isHostCharacter '@' member) (by decide))
  cases written with
  | name nonempty names =>
      have plain {other : Char} (unnamed : Net.isNameCharacter other = false) : other ∉ text :=
        fun member => absurd rfl (Net.ne_of_test (names other member) unnamed)
      refine .name nonempty ?_ (plain (by decide)) unowned
      exact fun isHead => plain (by decide : Net.isNameCharacter '[' = false)
        (List.mem_of_mem_head? isHead)
  | brackets spelled =>
      have closed : ']' ∉ _ := fun member => spelled.ne member (by decide) (by decide) rfl
      exact .brackets closed fun member => unowned (by simp [member])

end Written

section Hosts

variable {host : String} (port : Option UInt16)

theorem isAuthority_authorityText (written : Net.Written (Net.bracketed host).toList) :
    IsAuthority (authorityText host port) := by
  have isAuthority := isAuthority_written written port
  rwa [← toList_authorityText, String.ofList_toList] at isAuthority

theorem host_of_authority (isHost : IsHostPart (Net.bracketed host).toList) {uri : Uri}
    (aimed : uri.authority = some (authorityText host port)) :
    uri.host = some (Net.bracketed host) := by
  rw [Uri.host, aimed, Option.map_some, toList_authorityText, hostOf_append isHost,
    String.ofList_toList]

theorem port_of_authority (isHost : IsHostPart (Net.bracketed host).toList) {uri : Uri}
    (aimed : uri.authority = some (authorityText host port)) : uri.port = port := by
  rw [Uri.port, aimed, Option.bind_some, toList_authorityText, portOf_append isHost]

/-- A host that has been given its brackets is written in the same way again. -/
theorem authorityText_bracketed (host : String) :
    authorityText (Net.bracketed host) port = authorityText host port := by
  have same := Net.bracketed_bracketed host
  cases port with
  | none => exact same
  | some port => rw [authorityText, authorityText, same]

end Hosts

end Authorities

section Locators

/-- A query as reading a URI gives it. -/
def IsQuery (query : String) : Prop :=
  ∀ character ∈ query.toList, isQueryCharacter character = true

/-- A path and a query, as they stand in a URI. -/
def locatorText (path : String) : Option String → String
  | some query => path ++ "?" ++ query
  | none => path

variable {path : String} {query : Option String}

theorem locator_locatorText
    (legal : ∀ character ∈ path.toList, isPathCharacter character = true)
    (isQuery : ∀ given, query = some given → IsQuery given) :
    locator (locatorText path query).toList = .ok ⟨path, query⟩ := by
  cases query with
  | none => exact locator_of_path legal
  | some query =>
      have characters : (locatorText path (some query)).toList =
          path.toList ++ '?' :: query.toList := by
        simp [locatorText]
      have unqueried : ∀ character ∈ path.toList, decide (character ≠ '?') = true := by
        intro character member
        exact decide_eq_true (ne_of_isPathCharacter (legal character member)).1
      have stops (character : Char) (isHead : ('?' :: query.toList).head? = some character) :
          decide (character ≠ '?') = false := by
        cases isHead
        rfl
      have unfragmented : ∀ character ∈ path.toList ++ '?' :: query.toList,
          decide (character ≠ '#') = true := by
        intro character member
        rcases List.mem_append.mp member with inPath | inQuery
        · exact decide_eq_true (ne_of_isPathCharacter (legal character inPath)).2
        · rcases List.mem_cons.mp inQuery with rfl | inQuery
          · rfl
          · have queried := isQuery query rfl character inQuery
            exact decide_eq_true (Net.ne_of_test queried (by decide))
      have kept : withoutFragment (path.toList ++ '?' :: query.toList) =
          path.toList ++ '?' :: query.toList :=
        List.takeWhile_eq_self_iff.mpr unfragmented
      have pathAll : path.toList.all isPathCharacter = true := List.all_eq_true.mpr legal
      have queryAll : query.toList.all isQueryCharacter = true :=
        List.all_eq_true.mpr (isQuery query rfl)
      rw [characters]
      unfold locator
      dsimp only
      rw [kept, takeWhile_append_of_stops unqueried stops,
        dropWhile_append_of_stops unqueried stops, pathAll]
      simp [queryAll]

theorem isQuery_of_locator {characters : List Char} {found : Locator}
    (located : locator characters = .ok found) :
    ∀ given, found.query = some given → IsQuery given := by
  unfold locator at located
  dsimp only at located
  split at located
  · cases located
  · split at located
    · cases located
      exact nofun
    · next query _ =>
        split at located
        · next legal =>
            cases located
            intro given same
            cases same
            intro character member
            rw [String.toList_ofList] at member
            exact List.all_eq_true.mp legal character member
        · cases located

end Locators

/-- A URI with a scheme, and with a path and a query that reading accepts. -/
structure Proper (uri : Uri) : Prop where
  schemed : uri.scheme ≠ none
  path : ∀ character ∈ uri.writtenPath.toList, isPathCharacter character = true
  query : ∀ query, uri.query = some query → IsQuery query

theorem isQuery_of_parse {text : String} {uri : Uri} (read : Uri.parse text = .ok uri) :
    ∀ given, uri.query = some given → IsQuery given := by
  cases form_of_parse read with
  | asterisk | letter => exact nofun
  | rooted located => exact isQuery_of_locator located
  | absolute _ form =>
      cases form with
      | unschemed => exact nofun
      | schemed _ _ _ located => exact isQuery_of_locator located

/-- Every URI that has been read, with a scheme and an authority, is a proper one. -/
theorem proper_of_parse {text : String} {uri : Uri} (read : Uri.parse text = .ok uri)
    (schemed : uri.scheme ≠ none) (aimed : uri.authority ≠ none) : uri.Proper where
  schemed := schemed
  path := ((readable_of_parse read).path aimed).characters
  query := isQuery_of_parse read

/-- A URI that differs from another one at most in its authority and its path. -/
structure Reaims (uri next : Uri) (authority path : String) : Prop where
  proper : next.Proper
  scheme : next.scheme = uri.scheme
  authority : next.authority = some authority
  path : next.path = path
  query : next.query = uri.query

section Rebuilding

variable {uri : Uri} {host authority path : String}

theorem wholeAuthority_of_isAuthority (isAuthority : IsAuthority authority) :
    wholeAuthority authority = .ok authority := by
  have split : splitAuthority (authority.toList ++ []) = .ok (authority.toList, []) :=
    splitAuthority_append isAuthority nofun
  have nonempty : authority.isEmpty = false := by
    rw [Bool.eq_false_iff]
    intro empty
    exact isAuthority.nonempty (by simpa using empty)
  rw [List.append_nil] at split
  rw [wholeAuthority, nonempty, split]
  rfl

/-- A path with a slash in front of it, if it has none. -/
def rooted (path : String) : String :=
  if path.toList.head? = some '/' then path else "/" ++ path

theorem rooted_isEmpty (path : String) : (rooted path).isEmpty = false := by
  rw [Bool.eq_false_iff]
  intro empty
  have none : (rooted path).toList = [] := by simpa using empty
  unfold rooted at none
  split at none
  · next slash =>
      rw [none] at slash
      cases slash
  · simp at none

theorem mem_rooted_iff {character : Char} (differs : character ≠ '/') :
    character ∈ (rooted path).toList ↔ character ∈ path.toList := by
  unfold rooted
  split
  · exact Iff.rfl
  · simp [differs]

theorem rooted_characters
    (legal : ∀ character ∈ path.toList, isPathCharacter character = true) :
    ∀ character ∈ (rooted path).toList, isPathCharacter character = true := by
  unfold rooted
  split
  · exact legal
  · intro character member
    rw [String.toList_append] at member
    rcases List.mem_append.mp member with isSlash | inPath
    · rw [List.mem_singleton.mp isSlash]
      rfl
    · exact legal character inPath

theorem withPath_eq (aimed : uri.authority = some authority) :
    uri.withPath path = uri.rebuild authority (locatorText (rooted path) uri.query) := by
  rw [Uri.withPath, aimed]
  dsimp only
  congr 1
  unfold rooted
  cases uri.query with
  | none => split <;> simp [locatorText]
  | some query => split <;> simp [locatorText, String.append_assoc]

variable (proper : uri.Proper)

include proper

theorem reaims_rebuild (isAuthority : IsAuthority authority)
    (legal : ∀ character ∈ path.toList, isPathCharacter character = true) :
    ∃ next, uri.rebuild authority (locatorText path uri.query) = .ok next ∧
      Reaims uri next authority (if path.isEmpty then "/" else path) := by
  obtain ⟨scheme, isScheme⟩ := Option.ne_none_iff_exists'.mp proper.schemed
  have named : some uri.schemeOrHttp = uri.scheme := by
    rw [schemeOrHttp, isScheme]
    rfl
  have rebuilt : Proper ⟨uri.scheme, some authority, path, uri.query⟩ :=
    ⟨proper.schemed, legal, proper.query⟩
  refine ⟨⟨uri.scheme, some authority, path, uri.query⟩, ?_, rebuilt, rfl, rfl, ?_, rfl⟩
  · rw [rebuild, wholeAuthority_of_isAuthority isAuthority]
    dsimp only
    rw [locator_locatorText legal proper.query]
    dsimp only
    rw [named]
  · exact path_of_schemed rebuilt.schemed

/-- The path that is written anew is empty only where it stands for the root. -/
theorem Proper.exists_pathAndQuery :
    ∃ path, uri.pathAndQuery = locatorText path uri.query ∧
      (∀ character ∈ path.toList, isPathCharacter character = true) ∧
        (if path.isEmpty then "/" else path) = uri.path := by
  rw [path_of_schemed proper.schemed]
  unfold pathAndQuery
  cases uri.query with
  | some query => exact ⟨uri.writtenPath, rfl, proper.path, rfl⟩
  | none =>
      cases empty : uri.writtenPath.isEmpty with
      | true =>
          refine ⟨"/", rfl, fun character member => ?_, rfl⟩
          rw [List.mem_singleton.mp member]
          rfl
      | false => exact ⟨uri.writtenPath, rfl, proper.path, by rw [empty]⟩

theorem Proper.withHost (written : Net.Written (Net.bracketed host).toList) :
    ∃ next, uri.withHost host = .ok next ∧
      Reaims uri next (authorityText host uri.port) uri.path := by
  obtain ⟨path, located, legal, samePath⟩ := proper.exists_pathAndQuery
  rw [Uri.withHost, located, ← samePath]
  exact reaims_rebuild proper (isAuthority_authorityText uri.port written) legal

theorem Proper.withPort (written : Net.Written (Net.bracketed host).toList)
    {before : Option UInt16} (aimed : uri.authority = some (authorityText host before))
    (port : UInt16) :
    ∃ next, uri.withPort port = .ok next ∧
      Reaims uri next (authorityText host (some port)) uri.path := by
  obtain ⟨path, located, legal, samePath⟩ := proper.exists_pathAndQuery
  rw [Uri.withPort, host_of_authority before (isHostPart_of_written written) aimed]
  dsimp only
  rw [authorityText_bracketed, located, ← samePath]
  exact reaims_rebuild proper (isAuthority_authorityText (some port) written) legal

theorem Proper.withPath (aimed : uri.authority = some authority)
    (isAuthority : IsAuthority authority)
    (legal : ∀ character ∈ path.toList, isPathCharacter character = true) :
    ∃ next, uri.withPath path = .ok next ∧ Reaims uri next authority (rooted path) := by
  have reaims := reaims_rebuild proper isAuthority (rooted_characters legal)
  rw [withPath_eq aimed]
  rwa [rooted_isEmpty, if_neg Bool.false_ne_true] at reaims

end Rebuilding

end Uri
end RemoteCall
