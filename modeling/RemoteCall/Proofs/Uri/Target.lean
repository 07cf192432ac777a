import Mathlib.Data.List.TakeWhile
import RemoteCall.Call.Redirect

/-!
# Targets that are read again

A target is remembered as a text, and a later call reads it as a URI.  The text of a target reads
back as the scheme, the authority and the path that it was made of, because each of these parts
ends where the next one starts.  The parts that reading a URI gives have the form this needs, and
so have those that replacing a host, a port or a path gives.
-/

namespace RemoteCall
namespace Uri

section Spans

variable {α : Type} {test : α → Bool} {span rest : List α}

theorem takeWhile_append_of_stops (inside : ∀ item ∈ span, test item = true)
    (stops : ∀ item, rest.head? = some item → test item = false) :
    (span ++ rest).takeWhile test = span := by
  rw [List.takeWhile_append_of_pos inside]
  cases rest with
  | nil => simp
  | cons item later => simp [stops item rfl]

theorem dropWhile_append_of_stops (inside : ∀ item ∈ span, test item = true)
    (stops : ∀ item, rest.head? = some item → test item = false) :
    (span ++ rest).dropWhile test = rest := by
  rw [List.dropWhile_append_of_pos inside]
  cases rest with
  | nil => rfl
  | cons item later => simp [stops item rfl]

end Spans

section Schemes

/-- A scheme as reading a URI gives it: those of the web are in lower case. -/
structure IsScheme (scheme : String) : Prop where
  characters : ∀ character ∈ scheme.toList, isSchemeCharacter character = true
  short : scheme.toList.length ≤ schemeLimit
  http : scheme.toList.map Char.toLower = "http".toList → scheme = "http"
  https : scheme.toList.map Char.toLower = "https".toList → scheme = "https"

theorem afterLowercase?_eq_some_iff {expected characters found : List Char} :
    afterLowercase? expected characters = some found ↔
      ∃ start, characters = start ++ found ∧ start.map Char.toLower = expected := by
  induction expected generalizing characters with
  | nil => simp [afterLowercase?]
  | cons first others ih =>
      cases characters with
      | nil => simp [afterLowercase?]
      | cons character rest =>
          rw [afterLowercase?]
          split
          · next same =>
              rw [ih]
              constructor
              · rintro ⟨start, rfl, lowered⟩
                exact ⟨character :: start, rfl, by rw [List.map_cons, same, lowered]⟩
              · rintro ⟨start, split, lowered⟩
                cases start with
                | nil => cases lowered
                | cons head start =>
                    cases split
                    exact ⟨start, rfl, (List.cons.inj lowered).2⟩
          · next differs =>
              refine iff_of_false nofun ?_
              rintro ⟨start, split, lowered⟩
              cases start with
              | nil => cases lowered
              | cons head start =>
                  cases split
                  exact differs (List.cons.inj lowered).1

theorem eq_colon_of_toLower {character : Char} (lowered : character.toLower = ':') :
    character = ':' := by
  unfold Char.toLower at lowered
  split at lowered
  · next upper =>
      have value : character.val + 32 = 58 := congrArg Char.val lowered
      have least : 65 ≤ character.val.toNat := UInt32.le_iff_toNat_le.mp upper.1
      have greatest : character.val.toNat ≤ 90 := UInt32.le_iff_toNat_le.mp upper.2
      have sum := congrArg UInt32.toNat value
      rw [UInt32.toNat_add] at sum
      change (character.val.toNat + 32) % 4294967296 = 58 at sum
      omega
  · exact lowered

theorem ne_colon_of_isSchemeCharacter {character : Char}
    (scheme : isSchemeCharacter character = true) : character ≠ ':' := by
  rintro rfl
  revert scheme
  decide

/-- The first colon ends the scheme, so a text starts with the name of a scheme, whatever its case,
only if its scheme is this one. -/
theorem lowered_of_afterLowercase? (name : List Char) (plain : ':' ∉ name)
    {scheme rest found : List Char}
    (characters : ∀ character ∈ scheme, isSchemeCharacter character = true)
    (matched : afterLowercase? (name ++ "://".toList) (scheme ++ ':' :: rest) = some found) :
    scheme.map Char.toLower = name := by
  obtain ⟨start, split, lowered⟩ := afterLowercase?_eq_some_iff.mp matched
  obtain ⟨named, separator, rfl, isNamed, isSeparator⟩ := List.map_eq_append_iff.mp lowered
  obtain ⟨colon, slashes, rfl, isColon, _⟩ := List.map_eq_cons_iff.mp isSeparator
  cases eq_colon_of_toLower isColon
  have unseparated : ∀ character ∈ named, (character != ':') = true := by
    intro character member
    rw [bne_iff_ne]
    rintro rfl
    apply plain
    rw [← isNamed]
    exact List.mem_map_of_mem (f := Char.toLower) member
  have unended : ∀ character ∈ scheme, (character != ':') = true := by
    intro character member
    exact bne_iff_ne.mpr (ne_colon_of_isSchemeCharacter (characters character member))
  have stops (later : List Char) (character : Char)
      (isHead : (':' :: later).head? = some character) : (character != ':') = false := by
    cases isHead
    rfl
  have same : scheme = named := by
    rw [← takeWhile_append_of_stops unended (stops rest), split, List.append_assoc,
      List.cons_append, takeWhile_append_of_stops unseparated (stops _)]
  rw [same, isNamed]

theorem splitScheme_append {scheme : String} (isScheme : IsScheme scheme) {rest : List Char}
    (more : rest ≠ []) :
    splitScheme (scheme.toList ++ ':' :: '/' :: '/' :: rest) = .ok (some (scheme, rest)) := by
  unfold splitScheme
  cases http : afterLowercase? "http://".toList (scheme.toList ++ ':' :: '/' :: '/' :: rest) with
  | some found =>
      have named := isScheme.http
        (lowered_of_afterLowercase? "http".toList (by decide) isScheme.characters http)
      subst named
      cases http
      rfl
  | none =>
      dsimp only
      cases https : afterLowercase? "https://".toList
          (scheme.toList ++ ':' :: '/' :: '/' :: rest) with
      | some found =>
          have named := isScheme.https
            (lowered_of_afterLowercase? "https".toList (by decide) isScheme.characters https)
          subst named
          cases https
          rfl
      | none =>
          have long : ¬(scheme.toList ++ ':' :: '/' :: '/' :: rest).length ≤ 3 := by
            have positive := List.length_pos_iff.mpr more
            simp only [List.length_append, List.length_cons]
            omega
          have stops (character : Char)
              (isHead : (':' :: '/' :: '/' :: rest).head? = some character) :
              isSchemeCharacter character = false := by
            cases isHead
            decide
          rw [if_neg long, takeWhile_append_of_stops isScheme.characters stops,
            dropWhile_append_of_stops isScheme.characters stops]
          refine (if_neg (Nat.not_lt.mpr isScheme.short)).trans ?_
          rw [String.ofList_toList]

theorem isScheme_http : IsScheme "http" where
  characters := List.all_eq_true.mp (by rfl : "http".toList.all isSchemeCharacter = true)
  short := by decide
  http _ := rfl
  https lowered := absurd (congrArg List.length lowered) (by decide)

theorem isScheme_https : IsScheme "https" where
  characters := List.all_eq_true.mp (by rfl : "https".toList.all isSchemeCharacter = true)
  short := by decide
  http lowered := absurd (congrArg List.length lowered) (by decide)
  https _ := rfl

theorem afterLowercase?_of_lowered (name : List Char) {scheme : List Char}
    (lowered : scheme.map Char.toLower = name) (rest : List Char) :
    afterLowercase? (name ++ "://".toList) (scheme ++ ':' :: '/' :: '/' :: rest) = some rest := by
  refine afterLowercase?_eq_some_iff.mpr ⟨scheme ++ [':', '/', '/'], by simp, ?_⟩
  rw [List.map_append, lowered]
  rfl

/-- How the scheme at the start of a text is read. -/
inductive SchemeForm (characters rest : List Char) : String → Prop where
  | http (found : afterLowercase? "http://".toList characters = some rest) :
      SchemeForm characters rest "http"
  | https (found : afterLowercase? "https://".toList characters = some rest) :
      SchemeForm characters rest "https"
  | other {scheme : List Char} (whole : characters = scheme ++ ':' :: '/' :: '/' :: rest)
      (legal : ∀ character ∈ scheme, isSchemeCharacter character = true)
      (short : scheme.length ≤ schemeLimit)
      (notHttp : afterLowercase? "http://".toList characters = none)
      (notHttps : afterLowercase? "https://".toList characters = none) :
      SchemeForm characters rest (String.ofList scheme)

theorem schemeForm_of_splitScheme {characters rest : List Char} {scheme : String}
    (split : splitScheme characters = .ok (some (scheme, rest))) :
    SchemeForm characters rest scheme := by
  unfold splitScheme at split
  split at split
  · next http =>
      cases split
      exact .http http
  · next notHttp =>
      split at split
      · next https =>
          cases split
          exact .https https
      · next notHttps =>
          split at split
          · cases split
          · split at split
            · next later separated =>
                dsimp only at split
                split at split
                · cases split
                · next short =>
                    cases split
                    have whole : characters.takeWhile isSchemeCharacter ++
                        characters.dropWhile isSchemeCharacter = characters :=
                      List.takeWhile_append_dropWhile
                    rw [separated] at whole
                    exact .other whole.symm (fun _ member => List.mem_takeWhile_imp member)
                      (Nat.not_lt.mp short) notHttp notHttps
            · cases split

/-- Whatever is read as a scheme has the form of one. -/
theorem isScheme_of_splitScheme {characters rest : List Char} {scheme : String}
    (split : splitScheme characters = .ok (some (scheme, rest))) : IsScheme scheme := by
  cases schemeForm_of_splitScheme split with
  | http => exact isScheme_http
  | https => exact isScheme_https
  | @other scheme whole legal short notHttp notHttps =>
      have unnamed (name : List Char)
          (unread : afterLowercase? (name ++ "://".toList) characters = none) :
          scheme.map Char.toLower ≠ name := by
        intro lowered
        have read := afterLowercase?_of_lowered name lowered rest
        rw [← whole, unread] at read
        cases read
      rw [← String.toList_ofList (l := scheme)] at legal short unnamed
      exact ⟨legal, short, fun lowered => absurd lowered (unnamed "http".toList notHttp),
        fun lowered => absurd lowered (unnamed "https".toList notHttps)⟩

end Schemes

section Authorities

/-- An authority as reading a URI gives it. -/
structure IsAuthority (authority : String) : Prop where
  nonempty : authority.toList ≠ []
  unended : ∀ character ∈ authority.toList, endsAuthority character = false
  complete : ∃ scan, authority.toList.foldlM AuthorityScan.step AuthorityScan.start = .ok scan ∧
    scan.isComplete = true

/-- A character ends an authority, if there is one at all. -/
def StartsLocator (characters : List Char) : Prop :=
  ∀ character, characters.head? = some character → endsAuthority character = true

theorem splitAuthority_append {authority : String} (isAuthority : IsAuthority authority)
    {rest : List Char} (starts : StartsLocator rest) :
    splitAuthority (authority.toList ++ rest) = .ok (authority.toList, rest) := by
  obtain ⟨scan, scanned, complete⟩ := isAuthority.complete
  have inside : ∀ character ∈ authority.toList, (!endsAuthority character) = true := by
    intro character member
    rw [isAuthority.unended character member]
    rfl
  have stops (character : Char) (isHead : rest.head? = some character) :
      (!endsAuthority character) = false := by
    rw [starts character isHead]
    rfl
  unfold splitAuthority
  rw [takeWhile_append_of_stops inside stops, dropWhile_append_of_stops inside stops]
  dsimp only
  rw [scanned]
  dsimp only
  rw [if_pos complete]

/-- What an authority is split from, and that it is complete. -/
theorem splitAuthority_parts {characters authority rest : List Char}
    (split : splitAuthority characters = .ok (authority, rest)) :
    authority = characters.takeWhile (fun character => !endsAuthority character) ∧
      rest = characters.dropWhile (fun character => !endsAuthority character) ∧
      ∃ scan, authority.foldlM AuthorityScan.step AuthorityScan.start = .ok scan ∧
        scan.isComplete = true := by
  unfold splitAuthority at split
  dsimp only at split
  cases scanned : (characters.takeWhile fun character => !endsAuthority character).foldlM
      AuthorityScan.step AuthorityScan.start with
  | error fault =>
      rw [scanned] at split
      cases split
  | ok scan =>
      rw [scanned] at split
      dsimp only at split
      split at split
      · next complete =>
          cases split
          exact ⟨rfl, rfl, scan, scanned, complete⟩
      · cases split

theorem eq_of_splitAuthority_nil {characters authority : List Char}
    (split : splitAuthority characters = .ok (authority, [])) : authority = characters := by
  obtain ⟨isAuthority, isRest, _⟩ := splitAuthority_parts split
  have whole : characters.takeWhile (fun character => !endsAuthority character) ++
      characters.dropWhile (fun character => !endsAuthority character) = characters :=
    List.takeWhile_append_dropWhile
  rwa [← isAuthority, ← isRest, List.append_nil] at whole

theorem isAuthority_of_splitAuthority {characters authority rest : List Char}
    (split : splitAuthority characters = .ok (authority, rest)) (nonempty : authority ≠ []) :
    IsAuthority (String.ofList authority) ∧ StartsLocator rest := by
  obtain ⟨isAuthority, rfl, complete⟩ := splitAuthority_parts split
  constructor
  · constructor
    · rwa [String.toList_ofList]
    · rw [String.toList_ofList]
      intro character member
      rw [isAuthority] at member
      have unended := List.mem_takeWhile_imp member
      simpa using unended
    · rwa [String.toList_ofList]
  · intro character isHead
    have ended := List.head?_dropWhile_not (fun character => !endsAuthority character) characters
    rw [isHead] at ended
    simpa using ended

theorem isAuthority_of_wholeAuthority {text authority : String}
    (whole : wholeAuthority text = .ok authority) : authority = text ∧ IsAuthority authority := by
  unfold wholeAuthority at whole
  split at whole
  · cases whole
  · next nonempty =>
      split at whole
      · cases whole
      · next found split =>
          cases whole
          have all := eq_of_splitAuthority_nil split
          have some : found ≠ [] := by
            rw [all]
            simpa using nonempty
          have isAuthority := (isAuthority_of_splitAuthority split some).1
          rw [all, String.ofList_toList] at isAuthority
          exact ⟨rfl, isAuthority⟩
      · cases whole

end Authorities

section Paths

/-- A path as reading a URI with an authority gives it. -/
structure IsPath (path : String) : Prop where
  characters : ∀ character ∈ path.toList, isPathCharacter character = true
  rooted : ∀ character, path.toList.head? = some character → character = '/'

theorem ne_of_isPathCharacter {character : Char} (path : isPathCharacter character = true) :
    character ≠ '?' ∧ character ≠ '#' := by
  constructor
  · rintro rfl
    revert path
    decide
  · rintro rfl
    revert path
    decide

theorem locator_of_path {path : String}
    (legal : ∀ character ∈ path.toList, isPathCharacter character = true) :
    locator path.toList = .ok ⟨path, none⟩ := by
  have unqueried : ∀ character ∈ path.toList, decide (character ≠ '?') = true := by
    intro character member
    exact decide_eq_true (ne_of_isPathCharacter (legal character member)).1
  have unfragmented : ∀ character ∈ path.toList, decide (character ≠ '#') = true := by
    intro character member
    exact decide_eq_true (ne_of_isPathCharacter (legal character member)).2
  have kept : withoutFragment path.toList = path.toList :=
    List.takeWhile_eq_self_iff.mpr unfragmented
  have all : path.toList.all isPathCharacter = true := List.all_eq_true.mpr legal
  unfold locator
  dsimp only
  rw [kept, List.takeWhile_eq_self_iff.mpr unqueried, List.dropWhile_eq_nil_iff.mpr unqueried, all]
  simp

theorem path_of_locator {characters : List Char} {found : Locator}
    (located : locator characters = .ok found) :
    found.path = String.ofList ((withoutFragment characters).takeWhile (· ≠ '?')) ∧
      ∀ character ∈ found.path.toList, isPathCharacter character = true := by
  unfold locator at located
  dsimp only at located
  split at located
  · cases located
  · next allowed =>
      have all : ((withoutFragment characters).takeWhile (· ≠ '?')).all isPathCharacter = true := by
        simpa using allowed
      rw [← String.toList_ofList (l := (withoutFragment characters).takeWhile (· ≠ '?'))] at all
      split at located
      · cases located
        exact ⟨rfl, List.all_eq_true.mp all⟩
      · split at located
        · cases located
          exact ⟨rfl, List.all_eq_true.mp all⟩
        · cases located

theorem isPath_of_locator {characters : List Char} (starts : StartsLocator characters)
    {found : Locator} (located : locator characters = .ok found) : IsPath found.path := by
  obtain ⟨path, legal⟩ := path_of_locator located
  refine ⟨legal, ?_⟩
  intro character isHead
  rw [path, String.toList_ofList, withoutFragment, List.head?_takeWhile, List.head?_takeWhile]
    at isHead
  obtain ⟨isHead, unqueried⟩ := Option.filter_eq_some_iff.mp isHead
  obtain ⟨isHead, unfragmented⟩ := Option.filter_eq_some_iff.mp isHead
  have ends := starts character isHead
  simp only [endsAuthority, Bool.or_eq_true, beq_iff_eq] at ends
  rcases ends with (slash | question) | hash
  · exact slash
  · simp [question] at unqueried
  · simp [hash] at unfragmented

theorem isPath_empty : IsPath "" := ⟨nofun, nofun⟩

end Paths

/-- A URI whose parts have the form that reading gives them. -/
structure Readable (uri : Uri) : Prop where
  scheme : ∀ scheme, uri.scheme = some scheme → IsScheme scheme
  authority : ∀ authority, uri.authority = some authority → IsAuthority authority
  path : uri.authority ≠ none → IsPath uri.writtenPath

/-- A readable URI with a scheme and an authority. -/
structure Absolute (uri : Uri) : Prop extends Readable uri where
  schemed : uri.scheme ≠ none
  aimed : uri.authority ≠ none

section Reading

theorem readable_unaimed (path : String) (query : Option String) :
    Readable ⟨none, none, path, query⟩ :=
  ⟨nofun, nofun, fun aimed => absurd rfl aimed⟩

theorem readable_authority {authority : String} (isAuthority : IsAuthority authority) :
    Readable ⟨none, some authority, "", none⟩ where
  scheme := nofun
  authority given same := by
    cases same
    exact isAuthority
  path _ := isPath_empty

/-- How a text that does not start with a slash is read. -/
inductive AbsoluteForm (characters : List Char) : Uri → Prop where
  | unschemed {authority : List Char} (unnamed : splitScheme characters = .ok none)
      (split : splitAuthority characters = .ok (authority, [])) :
      AbsoluteForm characters ⟨none, some (String.ofList authority), "", none⟩
  | schemed {scheme : String} {rest authority later : List Char} {found : Locator}
      (named : splitScheme characters = .ok (some (scheme, rest))) (aimed : authority ≠ [])
      (split : splitAuthority rest = .ok (authority, later)) (located : locator later = .ok found) :
      AbsoluteForm characters
        ⟨some scheme, some (String.ofList authority), found.path, found.query⟩

theorem absoluteForm_of_ofAbsolute {characters : List Char} {uri : Uri}
    (read : ofAbsolute characters = .ok uri) : AbsoluteForm characters uri := by
  unfold ofAbsolute at read
  split at read
  · cases read
  · next unnamed =>
      split at read
      · cases read
      · next authority split =>
          cases read
          exact .unschemed unnamed split
      · cases read
  · cases read
  · next scheme rest _ named =>
      split at read
      · cases read
      · cases read
      · next authority later aimed split =>
          split at read
          · cases read
          · next found located =>
              cases read
              exact .schemed named aimed split located

/-- How a text is read. -/
inductive Form (text : String) : Uri → Prop where
  | asterisk : Form text ⟨none, none, "*", none⟩
  | rooted {characters : List Char} {found : Locator} (located : locator characters = .ok found) :
      Form text ⟨none, none, found.path, found.query⟩
  | letter {authority : String} (whole : wholeAuthority text = .ok authority) :
      Form text ⟨none, some authority, "", none⟩
  | absolute (nonempty : text.toList ≠ []) {uri : Uri} (form : AbsoluteForm text.toList uri) :
      Form text uri

theorem form_of_parse {text : String} {uri : Uri} (read : Uri.parse text = .ok uri) :
    Form text uri := by
  unfold Uri.parse at read
  split at read
  · cases read
  · split at read
    · cases read
    · cases read
      exact .asterisk
    · split at read
      · cases read
      · next found located =>
          cases read
          exact .rooted located
    · split at read
      · cases read
      · next authority whole =>
          cases read
          exact .letter whole
    · next nonempty _ _ _ => exact .absolute nonempty (absoluteForm_of_ofAbsolute read)

theorem within_of_parse {text : String} {uri : Uri} (read : Uri.parse text = .ok uri) :
    text.utf8ByteSize ≤ lengthLimit := by
  refine Nat.not_lt.mp fun long => ?_
  rw [Uri.parse, if_pos long] at read
  cases read

theorem AbsoluteForm.readable {characters : List Char} (nonempty : characters ≠ []) {uri : Uri}
    (form : AbsoluteForm characters uri) : Readable uri := by
  cases form with
  | unschemed _ split =>
      refine readable_authority (isAuthority_of_splitAuthority split ?_).1
      rwa [eq_of_splitAuthority_nil split]
  | schemed named aimed split located =>
      obtain ⟨isAuthority, starts⟩ := isAuthority_of_splitAuthority split aimed
      constructor
      · intro given same
        cases same
        exact isScheme_of_splitScheme named
      · intro given same
        cases same
        exact isAuthority
      · exact fun _ => isPath_of_locator starts located

/-- Every URI that has been read is readable. -/
theorem readable_of_parse {text : String} {uri : Uri} (read : Uri.parse text = .ok uri) :
    Readable uri := by
  cases form_of_parse read with
  | asterisk | rooted => exact readable_unaimed _ _
  | letter whole => exact readable_authority (isAuthority_of_wholeAuthority whole).2
  | absolute nonempty form => exact form.readable nonempty

theorem isEmpty_of_parse {text : String} {uri : Uri} (read : Uri.parse text = .ok uri) :
    text.isEmpty = false := by
  cases empty : text.isEmpty with
  | false => rfl
  | true =>
      rw [String.isEmpty_iff.mp empty] at read
      cases read

/-- A text of at least two characters that does not start with a slash is read as a whole. -/
theorem parse_eq_ofAbsolute {text : String} {first second : Char} {later : List Char}
    (characters : text.toList = first :: second :: later) (unrooted : first ≠ '/')
    (within : text.utf8ByteSize ≤ lengthLimit) :
    Uri.parse text = ofAbsolute (first :: second :: later) := by
  unfold Uri.parse
  rw [if_neg (Nat.not_lt.mpr within), characters]
  split
  · next impossible => cases impossible
  · next impossible => cases impossible
  · next rooted =>
      cases rooted
      exact absurd rfl unrooted
  · next impossible => cases impossible
  · rfl

theorem ofAbsolute_parts {scheme authority path : String} (isScheme : IsScheme scheme)
    (isAuthority : IsAuthority authority) (isPath : IsPath path) :
    ofAbsolute (scheme.toList ++ ':' :: '/' :: '/' :: (authority.toList ++ path.toList)) =
      .ok ⟨some scheme, some authority, path, none⟩ := by
  have more : authority.toList ++ path.toList ≠ [] :=
    List.append_ne_nil_of_left_ne_nil isAuthority.nonempty path.toList
  have starts : StartsLocator path.toList := by
    intro character isHead
    rw [isPath.rooted character isHead]
    rfl
  have split := splitAuthority_append isAuthority starts
  unfold ofAbsolute
  rw [splitScheme_append isScheme more]
  generalize authority.toList ++ path.toList = rest at more split
  cases rest with
  | nil => exact absurd rfl more
  | cons first later =>
      dsimp only
      rw [split]
      cases characters : authority.toList with
      | nil => exact absurd characters isAuthority.nonempty
      | cons character others =>
          dsimp only
          rw [locator_of_path isPath.characters, ← characters, String.ofList_toList]

/-- The text of a scheme, an authority and a path reads back as these. -/
theorem parse_parts {scheme authority path : String} (isScheme : IsScheme scheme)
    (isAuthority : IsAuthority authority) (isPath : IsPath path)
    (within : (scheme ++ "://" ++ authority ++ path).utf8ByteSize ≤ lengthLimit) :
    Uri.parse (scheme ++ "://" ++ authority ++ path) =
      .ok ⟨some scheme, some authority, path, none⟩ := by
  have characters : (scheme ++ "://" ++ authority ++ path).toList =
      scheme.toList ++ ':' :: '/' :: '/' :: (authority.toList ++ path.toList) := by
    simp
  rw [← ofAbsolute_parts isScheme isAuthority isPath]
  cases start : scheme.toList with
  | nil =>
      rw [start] at characters
      exact parse_eq_ofAbsolute characters (by decide) within
  | cons first others =>
      have unrooted : first ≠ '/' := by
        rintro rfl
        have slash := isScheme.characters '/' (by rw [start]; simp)
        revert slash
        decide
      rw [start] at characters
      cases others with
      | nil => exact parse_eq_ofAbsolute characters unrooted within
      | cons second others => exact parse_eq_ofAbsolute characters unrooted within

/-- Two URIs lead to the same place, whatever their queries are. -/
structure SamePlace (first second : Uri) : Prop where
  scheme : first.scheme = second.scheme
  host : first.host = second.host
  port : first.port = second.port
  path : first.path = second.path

theorem SamePlace.refl (uri : Uri) : SamePlace uri uri := ⟨rfl, rfl, rfl, rfl⟩

theorem Absolute.of_samePlace {uri landed : Uri} (absolute : uri.Absolute)
    (same : SamePlace landed uri) (readable : landed.Readable) : landed.Absolute := by
  refine ⟨readable, ?_, ?_⟩
  · rw [same.scheme]
    exact absolute.schemed
  · intro unaimed
    have sameHost := same.host
    rw [host, host, unaimed] at sameHost
    exact absolute.aimed (Option.map_eq_none_iff.mp sameHost.symm)

/-- A URI with a scheme has a path, be it the root. -/
theorem path_of_schemed {uri : Uri} (schemed : uri.scheme ≠ none) :
    uri.path = if uri.writtenPath.isEmpty then "/" else uri.writtenPath := by
  obtain ⟨scheme, isScheme⟩ := Option.ne_none_iff_exists'.mp schemed
  rw [Uri.path, isScheme]
  simp

/-- The parts of a remembered target.  Its path is left out if it is the root. -/
theorem Absolute.exists_targetText {uri : Uri} (absolute : uri.Absolute) :
    ∃ scheme authority path, uri.scheme = some scheme ∧ uri.authority = some authority ∧
      IsPath path ∧ (path = "" ∨ path = uri.path) ∧
        Uri.path ⟨some scheme, some authority, path, none⟩ = uri.path ∧
          uri.targetText = scheme ++ "://" ++ authority ++ path := by
  obtain ⟨scheme, isScheme⟩ := Option.ne_none_iff_exists'.mp absolute.schemed
  obtain ⟨authority, isAuthority⟩ := Option.ne_none_iff_exists'.mp absolute.aimed
  have isPath := absolute.path absolute.aimed
  have path := path_of_schemed absolute.schemed
  have target : uri.targetText =
      if uri.path == "/" then scheme ++ "://" ++ authority
      else scheme ++ "://" ++ authority ++ uri.path := by
    unfold targetText schemeOrHttp
    rw [isScheme, isAuthority]
    have present : uri.path.isEmpty = false := by
      rw [path]
      split
      · rfl
      · next present => simpa using present
    rw [present, Bool.false_or]
    rfl
  cases root : uri.path == "/" with
  | true =>
      rw [root, if_pos rfl] at target
      have isRoot : uri.path = "/" := by simpa using root
      refine ⟨scheme, authority, "", isScheme, isAuthority, isPath_empty, Or.inl rfl, ?_, ?_⟩
      · rw [isRoot]
        rfl
      · rw [target, String.append_empty]
  | false =>
      rw [root, if_neg (by decide)] at target
      have written : uri.path = uri.writtenPath := by
        rw [path]
        split
        · next empty =>
            rw [path, if_pos empty] at root
            cases root
        · rfl
      refine ⟨scheme, authority, uri.path, isScheme, isAuthority, ?_, Or.inr rfl, ?_, target⟩
      · rw [written]
        exact isPath
      · rw [path]
        split
        · rfl
        · next present => simp [Uri.path, present]

/-- A target that is remembered leads to where the request went. -/
theorem Absolute.parse_targetText {uri : Uri} (absolute : uri.Absolute)
    (within : uri.targetText.utf8ByteSize ≤ lengthLimit) :
    ∃ landed, Uri.parse uri.targetText = .ok landed ∧ SamePlace landed uri := by
  obtain ⟨scheme, authority, path, isScheme, isAuthority, isPath, _, samePath, target⟩ :=
    absolute.exists_targetText
  rw [target] at within
  rw [target, parse_parts (absolute.scheme scheme isScheme)
    (absolute.authority authority isAuthority) isPath within]
  refine ⟨_, rfl, isScheme.symm, ?_, ?_, samePath⟩
  · rw [host, host, isAuthority]
  · rw [port, port, isAuthority]

/-- A target that is remembered leads there without a query, whatever query the request had. -/
theorem Absolute.reads_targetText {uri landed : Uri} (absolute : uri.Absolute)
    (read : Uri.parse uri.targetText = .ok landed) :
    SamePlace landed uri ∧ landed.query = none := by
  have within := within_of_parse read
  obtain ⟨scheme, authority, path, isScheme, isAuthority, isPath, _, samePath, target⟩ :=
    absolute.exists_targetText
  rw [target] at within read
  rw [parse_parts (absolute.scheme scheme isScheme) (absolute.authority authority isAuthority)
    isPath within] at read
  cases read
  refine ⟨⟨isScheme.symm, ?_, ?_, samePath⟩, rfl⟩
  · rw [host, host, isAuthority]
  · rw [port, port, isAuthority]

/-- A remembered target is not longer than the URI it was made of. -/
theorem Absolute.targetText_size {uri : Uri} (absolute : uri.Absolute) :
    uri.targetText.utf8ByteSize ≤ uri.text.utf8ByteSize := by
  obtain ⟨scheme, authority, path, isScheme, isAuthority, _, samePath, _, target⟩ :=
    absolute.exists_targetText
  unfold text
  rw [target, isScheme, isAuthority]
  rcases samePath with rfl | rfl
  · simp only [String.utf8ByteSize_append, Option.getD_some, String.utf8ByteSize_empty]
    omega
  · simp only [String.utf8ByteSize_append, Option.getD_some]
    omega

end Reading

section Aiming

/-- Putting a URI together from a new authority and a new path gives an absolute one. -/
theorem absolute_rebuild {uri next : Uri} {newAuthority newLocator : String}
    (schemes : ∀ scheme, uri.scheme = some scheme → IsScheme scheme)
    (starts : StartsLocator newLocator.toList)
    (rebuilt : uri.rebuild newAuthority newLocator = .ok next) : next.Absolute := by
  unfold rebuild at rebuilt
  split at rebuilt
  · cases rebuilt
  · next authority whole =>
      split at rebuilt
      · cases rebuilt
      · next found located =>
          cases rebuilt
          have isScheme : IsScheme uri.schemeOrHttp := by
            unfold schemeOrHttp
            cases given : uri.scheme with
            | none => exact isScheme_http
            | some scheme => exact schemes scheme given
          refine ⟨⟨?_, ?_, fun _ => isPath_of_locator starts located⟩, nofun, nofun⟩
          · intro scheme same
            cases same
            exact isScheme
          · intro given same
            cases same
            exact (isAuthority_of_wholeAuthority whole).2

theorem IsPath.startsLocator {path : String} (isPath : IsPath path) {rest : List Char}
    (starts : StartsLocator rest) : StartsLocator (path.toList ++ rest) := by
  intro character isHead
  cases characters : path.toList with
  | nil =>
      rw [characters] at isHead
      exact starts character isHead
  | cons first others =>
      rw [characters] at isHead
      have slash := isPath.rooted character (by rw [characters]; exact isHead)
      rw [slash]
      rfl

theorem startsLocator_pathAndQuery {uri : Uri} (isPath : IsPath uri.writtenPath) :
    StartsLocator uri.pathAndQuery.toList := by
  unfold pathAndQuery
  cases uri.query with
  | none =>
      dsimp only
      split
      · intro character isHead
        cases isHead
        rfl
      · have starts : StartsLocator (uri.writtenPath.toList ++ []) := isPath.startsLocator nofun
        rwa [List.append_nil] at starts
  | some query =>
      have question : StartsLocator ('?' :: query.toList) := by
        intro character isHead
        cases isHead
        rfl
      have starts := isPath.startsLocator question
      simpa using starts

variable {uri next : Uri}

theorem Readable.withHost (readable : uri.Readable) (aimed : uri.authority ≠ none) {host : String}
    (replaced : uri.withHost host = .ok next) : next.Absolute :=
  absolute_rebuild readable.scheme (startsLocator_pathAndQuery (readable.path aimed)) replaced

theorem Absolute.withPort (absolute : uri.Absolute) {port : UInt16}
    (replaced : uri.withPort port = .ok next) : next.Absolute := by
  unfold Uri.withPort at replaced
  split at replaced
  · cases replaced
  · exact absolute_rebuild absolute.scheme
      (startsLocator_pathAndQuery (absolute.path absolute.aimed)) replaced

theorem Absolute.withPath (absolute : uri.Absolute) {path : String}
    (replaced : uri.withPath path = .ok next) : next.Absolute := by
  unfold Uri.withPath at replaced
  split at replaced
  · cases replaced
  · refine absolute_rebuild absolute.scheme ?_ replaced
    intro character isHead
    have isSlash : character = '/' := by
      split at isHead
      · next rooted =>
          rw [String.empty_append, String.toList_append, List.head?_append, rooted] at isHead
          exact (Option.some.inj isHead).symm
      · simpa using isHead.symm
    rw [isSlash]
    rfl

end Aiming

end Uri

namespace Redirect

theorem absolute_applyPath {current next : Uri} (absolute : current.Absolute) {fields : Fields}
    (applied : applyPath current fields = .ok next) : next.Absolute := by
  unfold applyPath at applied
  split at applied
  · cases applied
    exact absolute
  · next path _ =>
      cases replaced : current.withPath path with
      | error fault =>
          rw [replaced] at applied
          cases applied
      | ok uri =>
          rw [replaced] at applied
          cases applied
          exact absolute.withPath replaced

theorem absolute_applyPort {current next : Uri} (absolute : current.Absolute) {fields : Fields}
    (applied : applyPort current fields = .ok next) : next.Absolute := by
  unfold applyPort at applied
  split at applied
  · cases applied
    exact absolute
  · split at applied
    · cases applied
    · next port _ =>
        cases replaced : current.withPort port with
        | error fault =>
            rw [replaced] at applied
            cases applied
        | ok uri =>
            rw [replaced] at applied
            cases applied
            exact absolute.withPort replaced

/-- A redirect of a request to an absolute URI leads to an absolute URI. -/
theorem absolute_target {current next : Uri} (absolute : current.Absolute) {host : String}
    {fields : Fields} (aimed : target current host fields = .ok next) : next.Absolute := by
  unfold target at aimed
  split at aimed
  · cases aimed
  · next hosted replaced =>
      have absoluteHost := absolute.toReadable.withHost absolute.aimed replaced
      split at aimed
      · cases aimed
      · next pathed applied =>
          exact absolute_applyPort (absolute_applyPath absoluteHost applied) aimed

end Redirect
end RemoteCall
