import Mathlib.Data.List.Basic
import Mathlib.Data.List.Infix
import RemoteCall.Call.Client
import RemoteCall.Proofs.Uri.Target

/-!
# What a route key tells

A route key is put together from four texts with separators between them, and the texts may contain
the separators.  So a key can be taken apart only where a separator that follows a text is the first
one in the two together.  Hosts of URIs are such texts, and so are interface names without colons;
but nothing tells a method name that contains an underscore from a method name with an entity.
-/

namespace RemoteCall
namespace Route

/-- A separator that is put after a text is found again: in the two together it stands only at the
end. -/
def Separable (separator text : String) : Prop :=
  ∀ before after : List Char,
    text.toList ++ separator.toList = before ++ separator.toList ++ after → after = []

/-- The entity of a key, of which an empty one counts as none. -/
def namedEntity (entity : Option String) : Option String := entity.filter (!·.isEmpty)

/-- What a key ends with for the sake of an entity. -/
def entityPart (entity : Option String) : String :=
  match namedEntity entity with
  | none => ""
  | some identifier => "_" ++ identifier

/-- A method with an entity reads like another method: the name of the other one goes on with an
underscore, and what follows in it is where the entity begins. -/
def Absorbs (method : String) (entity : Option String) (other : String)
    (otherEntity : Option String) : Prop :=
  ∃ middle : String, other = method ++ "_" ++ middle ∧
    namedEntity entity = some (middle ++ entityPart otherEntity)

section Separators

variable {separator first second : String}

/-- A text that lacks the last character of a separator can be told from it. -/
theorem separable_of_not_mem {front : List Char} {last : Char} {text : String}
    (absent : last ∉ text.toList) : Separable (String.ofList (front ++ [last])) text := by
  intro before after same
  rw [String.toList_ofList] at same
  have sameCount := congrArg (List.count last) same
  simp only [List.count_append, List.count_eq_zero_of_not_mem absent] at sameCount
  have unused : last ∉ after := by
    rw [← List.count_eq_zero]
    omega
  by_contra nonempty
  have sameLast := congrArg List.getLast? same
  rw [List.getLast?_append_of_ne_nil _ nonempty, ← List.append_assoc,
    List.getLast?_append_of_ne_nil _ (List.cons_ne_nil last []),
    List.getLast?_singleton] at sameLast
  exact unused (List.mem_of_getLast? sameLast.symm)

/-- Of two texts that are followed by a separator, the shorter one ends where the separator is found
first, and so does the longer one. -/
theorem Separable.eq_of_le (separable : Separable separator second) {rest rest' : List Char}
    (same : first.toList ++ separator.toList ++ rest = second.toList ++ separator.toList ++ rest')
    (shorter : first.toList.length ≤ second.toList.length) : first = second := by
  have inside : first.toList ++ separator.toList <+: second.toList ++ separator.toList := by
    have whole : first.toList ++ separator.toList <+: second.toList ++ separator.toList ++ rest' :=
      same ▸ List.prefix_append _ _
    exact List.prefix_of_prefix_length_le whole (List.prefix_append _ _) (by simp [shorter])
  obtain ⟨after, split⟩ := inside
  have nothing := separable first.toList after split.symm
  rw [nothing, List.append_nil] at split
  exact String.toList_inj.mp (List.append_cancel_right split)

theorem eq_of_separable (separable : Separable separator first)
    (separable' : Separable separator second) {rest rest' : String}
    (same : first ++ separator ++ rest = second ++ separator ++ rest') :
    first = second ∧ rest = rest' := by
  have characters : first.toList ++ separator.toList ++ rest.toList =
      second.toList ++ separator.toList ++ rest'.toList := by
    simpa using congrArg String.toList same
  have equal : first = second := by
    rcases Nat.le_total first.toList.length second.toList.length with shorter | longer
    · exact separable'.eq_of_le characters shorter
    · exact (separable.eq_of_le characters.symm longer).symm
  subst equal
  exact ⟨rfl, String.toList_inj.mp (List.append_cancel_left characters)⟩

/-- A text that is the same on both sides, or can be told from its separator, is read back. -/
theorem eq_of_told {rest rest' : String}
    (told : first = second ∨ Separable separator first ∧ Separable separator second)
    (same : first ++ separator ++ rest = second ++ separator ++ rest') :
    first = second ∧ rest = rest' := by
  rcases told with rfl | ⟨separable, separable'⟩
  · refine ⟨rfl, String.toList_inj.mp ?_⟩
    have characters := congrArg String.toList same
    simp only [String.toList_append] at characters
    exact List.append_cancel_left characters
  · exact eq_of_separable separable separable' same

end Separators

section Entities

variable {method other : String} {entity otherEntity : Option String}

theorem key_eq (host interface method : String) (entity : Option String) :
    key host interface method entity =
      host ++ "->" ++ (interface ++ "::" ++ (method ++ entityPart entity)) := by
  unfold key entityPart namedEntity
  cases entity with
  | none => simp [String.append_assoc]
  | some identifier =>
      cases empty : identifier.isEmpty with
      | true => simp [Option.filter_some, empty, String.append_assoc]
      | false => simp [Option.filter_some, empty, String.append_assoc]

/-- The end of a key tells the entity. -/
theorem namedEntity_of_entityPart (same : entityPart entity = entityPart otherEntity) :
    namedEntity entity = namedEntity otherEntity := by
  unfold entityPart at same
  cases named : namedEntity entity with
  | none =>
      cases otherNamed : namedEntity otherEntity with
      | none => rfl
      | some identifier =>
          rw [named, otherNamed] at same
          have characters := congrArg String.toList same
          simp at characters
  | some identifier =>
      cases otherNamed : namedEntity otherEntity with
      | none =>
          rw [named, otherNamed] at same
          have characters := congrArg String.toList same
          simp at characters
      | some otherIdentifier =>
          rw [named, otherNamed] at same
          have characters := congrArg String.toList same
          simp only [String.toList_append] at characters
          rw [String.toList_inj.mp (List.append_cancel_left characters)]

theorem entityPart_of_absorbs (absorbs : Absorbs method entity other otherEntity) :
    method ++ entityPart entity = other ++ entityPart otherEntity := by
  obtain ⟨middle, rfl, named⟩ := absorbs
  rw [entityPart, named]
  simp only [String.append_assoc]

/-- If a method name with its entity reads like a longer method name with another entity, then the
longer name goes on where the entity begins. -/
theorem absorbs_of_longer {middle : List Char} (longer : other.toList = method.toList ++ middle)
    (proper : middle ≠ [])
    (same : (entityPart entity).toList = middle ++ (entityPart otherEntity).toList) :
    Absorbs method entity other otherEntity := by
  cases named : namedEntity entity with
  | none =>
      rw [entityPart, named] at same
      exact absurd (List.append_eq_nil_iff.mp same.symm).1 proper
  | some identifier =>
      obtain ⟨first, later, rfl⟩ := List.exists_cons_of_ne_nil proper
      have underscored : (entityPart entity).toList = '_' :: identifier.toList := by
        rw [entityPart, named]
        simp
      rw [underscored] at same
      obtain ⟨rfl, rest⟩ := List.cons.inj same
      refine ⟨String.ofList later, String.toList_inj.mp ?_, ?_⟩
      · rw [longer]
        simp
      · rw [named]
        refine congrArg some (String.toList_inj.mp ?_)
        rw [String.toList_append, String.toList_ofList]
        exact rest

/-- When two methods with their entities read the same. -/
theorem methodText_eq_iff :
    method ++ entityPart entity = other ++ entityPart otherEntity ↔
      method = other ∧ namedEntity entity = namedEntity otherEntity ∨
        Absorbs method entity other otherEntity ∨ Absorbs other otherEntity method entity := by
  constructor
  · intro same
    have characters := congrArg String.toList same
    simp only [String.toList_append] at characters
    rcases List.append_eq_append_iff.mp characters with
      ⟨middle, longer, rest⟩ | ⟨middle, longer, rest⟩
    · by_cases proper : middle = []
      · subst proper
        rw [List.append_nil] at longer
        have sameMethod : method = other := String.toList_inj.mp longer.symm
        exact Or.inl ⟨sameMethod, namedEntity_of_entityPart (String.toList_inj.mp rest)⟩
      · exact Or.inr (Or.inl (absorbs_of_longer longer proper rest))
    · by_cases proper : middle = []
      · subst proper
        rw [List.append_nil] at longer
        have sameMethod : method = other := String.toList_inj.mp longer
        exact Or.inl ⟨sameMethod, (namedEntity_of_entityPart (String.toList_inj.mp rest)).symm⟩
      · exact Or.inr (Or.inr (absorbs_of_longer longer proper rest))
  · rintro (⟨rfl, sameEntity⟩ | absorbs | absorbs)
    · rw [entityPart, entityPart, sameEntity]
    · exact entityPart_of_absorbs absorbs
    · exact (entityPart_of_absorbs absorbs).symm

/-- A method name does not go on like itself, and one without underscores not like any other. -/
theorem not_absorbs (plain : method = other ∨ '_' ∉ method.toList ∧ '_' ∉ other.toList) :
    ¬Absorbs method entity other otherEntity := by
  rintro ⟨middle, longer, _⟩
  have characters : other.toList = method.toList ++ '_' :: middle.toList := by
    rw [longer]
    simp
  rcases plain with rfl | ⟨_, plain⟩
  · simp at characters
  · rw [characters] at plain
    simp at plain

end Entities

section Keys

variable {host otherHost interface otherInterface method otherMethod : String}
  {entity otherEntity : Option String}

/-- When two keys are the same. -/
theorem key_eq_key_iff
    (hosts : host = otherHost ∨ Separable "->" host ∧ Separable "->" otherHost)
    (interfaces : interface = otherInterface ∨
      Separable "::" interface ∧ Separable "::" otherInterface) :
    key host interface method entity = key otherHost otherInterface otherMethod otherEntity ↔
      host = otherHost ∧ interface = otherInterface ∧
        (method = otherMethod ∧ namedEntity entity = namedEntity otherEntity ∨
          Absorbs method entity otherMethod otherEntity ∨
            Absorbs otherMethod otherEntity method entity) := by
  rw [key_eq, key_eq, ← methodText_eq_iff]
  constructor
  · intro same
    obtain ⟨sameHost, rest⟩ := eq_of_told hosts same
    obtain ⟨sameInterface, sameMethod⟩ := eq_of_told interfaces rest
    exact ⟨sameHost, sameInterface, sameMethod⟩
  · rintro ⟨rfl, rfl, sameMethod⟩
    rw [sameMethod]

end Keys

section Hosts

open Uri

theorem not_mem_of_scanned {characters : List Char} {scan last : AuthorityScan}
    (scanned : characters.foldlM AuthorityScan.step scan = .ok last) : '>' ∉ characters := by
  induction characters generalizing scan with
  | nil => exact List.not_mem_nil
  | cons character later ih =>
      rw [List.foldlM_cons] at scanned
      cases stepped : scan.step character with
      | error fault =>
          rw [stepped] at scanned
          cases scanned
      | ok next =>
          rw [stepped] at scanned
          have others : '>' ∉ later := ih scanned
          intro member
          rcases List.mem_cons.mp member with rfl | inside
          · have refused : scan.step '>' = .error .invalidCharacter := rfl
            rw [refused] at stepped
            cases stepped
          · exact others inside

/-- Apart from its brackets a host consists of characters of its authority. -/
theorem mem_of_mem_hostOf {authority : List Char} {character : Char}
    (member : character ∈ hostOf authority) (unopening : character ≠ '[')
    (unclosing : character ≠ ']') : character ∈ authority := by
  have whole {later : Char} (inside : later ∈ hostAndPort authority) : later ∈ authority := by
    unfold hostAndPort at inside
    exact List.mem_reverse.mp ((List.takeWhile_subset _) (List.mem_reverse.mp inside))
  unfold hostOf at member
  split at member
  · next later bracketed =>
      apply whole
      rw [bracketed]
      rcases List.mem_cons.mp member with opening | inside
      · exact absurd opening unopening
      · rcases List.mem_append.mp inside with inside | closing
        · exact List.mem_cons_of_mem _ (List.takeWhile_subset _ inside)
        · exact absurd (List.mem_singleton.mp closing) unclosing
  · exact whole (List.takeWhile_subset _ member)

/-- The host of a URI is a text that a separator can follow. -/
theorem separable_host {uri : Uri} (readable : uri.Readable) {host : String}
    (isHost : uri.host = some host) : Separable "->" host := by
  have absent : '>' ∉ host.toList := by
    obtain ⟨authority, isAuthority, rfl⟩ := Option.map_eq_some_iff.mp isHost
    obtain ⟨scan, scanned, _⟩ := (readable.authority authority isAuthority).complete
    have outside : '>' ∉ authority.toList := not_mem_of_scanned scanned
    rw [String.toList_ofList]
    exact fun member => outside (mem_of_mem_hostOf member (by decide) (by decide))
  have separable : Separable (String.ofList (['-'] ++ ['>'])) host := separable_of_not_mem absent
  exact separable

end Hosts

/-- Two keys with hosts and interfaces that can be told from the separators are the same exactly if
hosts and interfaces are and either the methods and entities are too, or one method name with its
entity reads like the other one.  So different routes have different keys where method names have no
underscores; in particular the calls of clients that were given URIs, and different entities of one
method in any case. -/
theorem distinct_routes :
    (∀ host otherHost interface otherInterface method otherMethod : String,
      ∀ entity otherEntity : Option String,
        (host = otherHost ∨ Separable "->" host ∧ Separable "->" otherHost) →
        (interface = otherInterface ∨
          Separable "::" interface ∧ Separable "::" otherInterface) →
        (key host interface method entity = key otherHost otherInterface otherMethod otherEntity ↔
          host = otherHost ∧ interface = otherInterface ∧
            (method = otherMethod ∧ namedEntity entity = namedEntity otherEntity ∨
              Absorbs method entity otherMethod otherEntity ∨
                Absorbs otherMethod otherEntity method entity))) ∧
      (∀ (client otherClient : Client) (call other : Call) (host otherHost : String),
        client.entry.Readable → otherClient.entry.Readable →
        client.entryName = some host → otherClient.entryName = some otherHost →
        (call.interface = other.interface ∨
          Separable "::" call.interface ∧ Separable "::" other.interface) →
        (call.method = other.method ∨
          '_' ∉ call.method.toList ∧ '_' ∉ other.method.toList) →
        client.routeKey host call = otherClient.routeKey otherHost other →
          host = otherHost ∧ call.interface = other.interface ∧ call.method = other.method ∧
            namedEntity (client.entity call) = namedEntity (otherClient.entity other)) := by
  constructor
  · intro host otherHost interface otherInterface method otherMethod entity otherEntity hosts
      interfaces
    exact key_eq_key_iff hosts interfaces
  · intro client otherClient call other host otherHost readable otherReadable named otherNamed
      interfaces methods same
    have hosts : host = otherHost ∨ Separable "->" host ∧ Separable "->" otherHost :=
      Or.inr ⟨separable_host readable (Option.eq_some_of_filter_eq_some named),
        separable_host otherReadable (Option.eq_some_of_filter_eq_some otherNamed)⟩
    obtain ⟨sameHost, sameInterface, tails⟩ := (key_eq_key_iff hosts interfaces).mp same
    refine ⟨sameHost, sameInterface, ?_⟩
    rcases tails with equal | absorbs | absorbs
    · exact equal
    · exact absurd absorbs (not_absorbs methods)
    · exact absurd absorbs (not_absorbs (methods.imp Eq.symm And.symm))

/-- A client whose calls are about the entity that their first parameter names. -/
def clerk : Client where
  entry := ⟨some "http", some "relay:8080", "/", none⟩
  settings := { Settings.usual with entityPosition := some 0 }
  codec := .json
  handler := .standard

/-- Calls about different entities have different keys, also where the method has an underscore; and
keys of different hosts and interfaces differ. -/
theorem distinct_routes_entities :
    (let call := Call.fresh "Accounts" "get_name" [.string "7"]
      let other := Call.fresh "Accounts" "get_name" [.string "7_7"]
      clerk.entry.Readable ∧ clerk.entryName = some "relay" ∧
        clerk.routeKey "relay" call ≠ clerk.routeKey "relay" other) ∧
      Separable "->" "relay" ∧ Separable "->" "re-lay" ∧ Separable "::" "Accounts" ∧
        Separable "::" "Account" ∧
          key "relay" "Accounts" "get" (some "name") ≠ key "re-lay" "Account" "get_name" none := by
  constructor
  · intro call other
    have readable : clerk.entry.Readable :=
      Uri.readable_of_parse (by rfl : Uri.parse "http://relay:8080/" = .ok clerk.entry)
    have named : clerk.entryName = some "relay" := by decide
    refine ⟨readable, named, fun same => ?_⟩
    have sameEntity := (distinct_routes.2 clerk clerk call other "relay" "relay" readable readable
      named named (Or.inl rfl) (Or.inl rfl) same).2.2.2
    revert sameEntity
    decide
  · have arrow {text : String} (absent : '>' ∉ text.toList) : Separable "->" text :=
      (separable_of_not_mem absent : Separable (String.ofList (['-'] ++ ['>'])) text)
    have colons {text : String} (absent : ':' ∉ text.toList) : Separable "::" text :=
      (separable_of_not_mem absent : Separable (String.ofList ([':'] ++ [':'])) text)
    have hosts := And.intro (arrow (by decide : '>' ∉ "relay".toList))
      (arrow (by decide : '>' ∉ "re-lay".toList))
    have interfaces := And.intro (colons (by decide : ':' ∉ "Accounts".toList))
      (colons (by decide : ':' ∉ "Account".toList))
    refine ⟨hosts.1, hosts.2, interfaces.1, interfaces.2, fun same => ?_⟩
    have sameHost := ((distinct_routes.1 _ _ _ _ _ _ _ _ (Or.inr hosts)
      (Or.inr interfaces)).mp same).1
    revert sameHost
    decide

/-- Two calls of one client to different methods have one key if the first name goes on like the
second one's entity.  Neither can the parts of a key be told apart where a host or an interface
contains a separator. -/
theorem shared_routes :
    (let call := Call.fresh "Accounts" "get" [.string "name"]
      let other := Call.fresh "Accounts" "get_name" []
      call.method ≠ other.method ∧
        clerk.routeKey "relay" call = clerk.routeKey "relay" other) ∧
      key "relay" "Bank::Accounts" "get" none = key "relay" "Bank" "Accounts::get" none ∧
        key "relay->Bank" "Accounts" "get" none = key "relay" "Bank->Accounts" "get" none := by
  exact ⟨⟨by decide, by decide⟩, by decide, by decide⟩

end Route
end RemoteCall
