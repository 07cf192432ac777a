import RemoteCall.Proofs.Http.Occurrences
import RemoteCall.Proofs.Response.Answers

/-!
# Answers composed step by step

However many steps there are in composing an answer, and in whatever order they come, each header
is what the first step says that sets it, and body and status are what the last step says that sets
them.  Every name of the answer is one of the headers of the protocol or the length of the body, and
occurs once; so the answer is determined by what the steps say about each of its parts, and steps
that are about different parts may come in any order.
-/

namespace RemoteCall
namespace Response

/-- A step in composing an answer (the methods of `ResponseBuilder`). -/
inductive Step where
  | header (header : Header) (text : String)
  | serializedContent
  | body (body : Bytes)
  | status (status : Status)
  deriving DecidableEq, Repr

/-- What a step is about. -/
inductive Part where
  | header (header : Header)
  | body
  | status
  deriving DecidableEq, Repr

namespace Step

def part : Step → Part
  | header name _ => .header name
  | serializedContent => .header .serializedContent
  | body _ => .body
  | status _ => .status

/-- The text that a step has for a header. -/
def text? (name : Header) : Step → Option String
  | header other text => if other = name then some text else none
  | serializedContent => if .serializedContent = name then some Header.yes else none
  | body _ | status _ => none

def body? : Step → Option Bytes
  | body bytes => some bytes
  | header _ _ | serializedContent | status _ => none

def status? : Step → Option Status
  | status code => some code
  | header _ _ | serializedContent | body _ => none

end Step

namespace Draft

def perform (draft : Draft) : Step → Draft
  | .header header text => draft.withHeader header text
  | .serializedContent => draft.withSerializedContent
  | .body body => draft.withBody body
  | .status status => draft.withStatus status

def performAll (draft : Draft) (steps : List Step) : Draft := steps.foldl perform draft

end Draft

/-- The answer of a kind that some steps compose. -/
def compose (kind : ResponseType) (steps : List Step) : Response :=
  ((Draft.ofKind kind).performAll steps).finish

/-- The text of a header in an answer of a kind that some steps compose: the first one that a step
has for it, and else, for the header that tells the kind, the tag of the kind. -/
def textOf (kind : ResponseType) (steps : List Step) (header : Header) : Option String :=
  (steps.findSome? (Step.text? header)).or
    (if header = .responseType then some kind.tag else none)

/-- The body that the last step has which has one; empty if there is none. -/
def bodyOf (steps : List Step) : Bytes := (steps.reverse.findSome? Step.body?).getD []

/-- The status that the last step has which has one; the usual one if there is none. -/
def statusOf (steps : List Step) : Status := (steps.reverse.findSome? Step.status?).getD .ok

namespace Draft

variable {draft : Draft} {header : Header}

/-- Every name in a draft is a header of the protocol, and occurs once. -/
structure Sound (draft : Draft) : Prop where
  distinct : draft.fields.Distinct
  known : ∀ entry ∈ draft.fields.entries, ∃ header : Header, entry.1 = header.fieldName

theorem sound_ofKind (kind : ResponseType) : (ofKind kind).Sound :=
  ⟨Fields.distinct_empty, nofun⟩

theorem Sound.withHeader (sound : draft.Sound) (header : Header) (text : String) :
    (draft.withHeader header text).Sound := by
  unfold Draft.withHeader
  split
  · exact sound
  · refine ⟨Fields.distinct_set sound.distinct _ _, fun entry member => ?_⟩
    rcases Fields.mem_set member with rfl | stored
    · exact ⟨header, rfl⟩
    · exact sound.known entry stored

theorem Sound.perform (sound : draft.Sound) (step : Step) : (draft.perform step).Sound := by
  cases step with
  | header header text => exact sound.withHeader header text
  | serializedContent => exact sound.withHeader .serializedContent Header.yes
  | body | status => exact ⟨sound.distinct, sound.known⟩

theorem Sound.performAll (sound : draft.Sound) (steps : List Step) :
    (draft.performAll steps).Sound := by
  induction steps generalizing draft with
  | nil => exact sound
  | cons step later ih => exact ih (sound.perform step)

/-- A header that is set counts only if it has not been set before. -/
theorem find?_withHeader (draft : Draft) (name : Header) (text : String) (header : Header) :
    (draft.withHeader name text).fields.find? header.fieldName =
      (draft.fields.find? header.fieldName).or
        (if name = header then some (FieldValue.ofText text) else none) := by
  unfold Draft.withHeader Fields.has Fields.contains
  by_cases same : name = header
  · subst same
    rw [if_pos rfl]
    cases set : draft.fields.find? name.fieldName with
    | some value => simp [set]
    | none => simp [Fields.write]
  · have differs : header.fieldName ≠ name.fieldName :=
      fun isName => same (Header.fieldName_injective isName).symm
    rw [if_neg same, Option.or_none]
    split
    · rfl
    · exact Fields.find?_set_of_ne _ _ differs

theorem find?_perform (draft : Draft) (step : Step) (header : Header) :
    (draft.perform step).fields.find? header.fieldName =
      (draft.fields.find? header.fieldName).or
        ((step.text? header).map FieldValue.ofText) := by
  cases step with
  | header name text =>
      rw [perform, find?_withHeader, Step.text?]
      split <;> rfl
  | serializedContent =>
      rw [perform, withSerializedContent, find?_withHeader, Step.text?]
      split <;> rfl
  | body | status => exact (Option.or_none).symm

theorem find?_performAll (draft : Draft) (steps : List Step) (header : Header) :
    (draft.performAll steps).fields.find? header.fieldName =
      (draft.fields.find? header.fieldName).or
        ((steps.findSome? (Step.text? header)).map FieldValue.ofText) := by
  induction steps generalizing draft with
  | nil => exact (Option.or_none).symm
  | cons step later ih =>
      change ((draft.perform step).performAll later).fields.find? header.fieldName = _
      rw [ih, find?_perform, Option.or_assoc, List.findSome?_cons]
      cases step.text? header <;> rfl

theorem body_performAll (draft : Draft) (steps : List Step) :
    (draft.performAll steps).body = (steps.reverse.findSome? Step.body?).getD draft.body := by
  induction steps generalizing draft with
  | nil => rfl
  | cons step later ih =>
      change ((draft.perform step).performAll later).body = _
      rw [ih, List.reverse_cons, List.findSome?_append]
      cases later.reverse.findSome? Step.body? with
      | some body => rfl
      | none =>
          cases step with
          | header => exact withHeader_body draft _
          | serializedContent => exact withHeader_body draft _
          | body | status => rfl

theorem status_performAll (draft : Draft) (steps : List Step) :
    (draft.performAll steps).status =
      (steps.reverse.findSome? Step.status?).getD draft.status := by
  induction steps generalizing draft with
  | nil => rfl
  | cons step later ih =>
      change ((draft.perform step).performAll later).status = _
      rw [ih, List.reverse_cons, List.findSome?_append]
      cases later.reverse.findSome? Step.status? with
      | some status => rfl
      | none =>
          cases step with
          | header => exact withHeader_status draft _
          | serializedContent => exact withHeader_status draft _
          | body | status => rfl

theorem kind_performAll (draft : Draft) (steps : List Step) :
    (draft.performAll steps).kind = draft.kind := by
  induction steps generalizing draft with
  | nil => rfl
  | cons step later ih =>
      change ((draft.perform step).performAll later).kind = draft.kind
      rw [ih]
      cases step with
      | header => exact withHeader_kind draft _
      | serializedContent => exact withHeader_kind draft _
      | body | status => rfl

end Draft

section Composing

variable {kind : ResponseType} {steps reordered : List Step} {header : Header}

theorem compose_body (kind : ResponseType) (steps : List Step) :
    (compose kind steps).body = bodyOf steps :=
  Draft.body_performAll (.ofKind kind) steps

theorem compose_status (kind : ResponseType) (steps : List Step) :
    (compose kind steps).status = statusOf steps :=
  Draft.status_performAll (.ofKind kind) steps

theorem distinct_compose (kind : ResponseType) (steps : List Step) :
    (compose kind steps).fields.Distinct := by
  have sound := (Draft.sound_ofKind kind).performAll steps
  exact Fields.distinct_set (sound.withHeader .responseType _).distinct _ _

/-- Every name in an answer is the length of the body or a header of the protocol. -/
theorem known_compose {entry : FieldName × FieldValue}
    (member : entry ∈ (compose kind steps).fields.entries) :
    entry.1 = contentLength ∨ ∃ header : Header, entry.1 = header.fieldName := by
  have sound := (Draft.sound_ofKind kind).performAll steps
  rcases Fields.mem_set member with rfl | stored
  · exact Or.inl rfl
  · exact Or.inr ((sound.withHeader .responseType _).known entry stored)

theorem find?_compose (kind : ResponseType) (steps : List Step) (header : Header) :
    (compose kind steps).fields.find? header.fieldName =
      (textOf kind steps header).map FieldValue.ofText := by
  rw [compose, Draft.find?_finish, Draft.find?_withHeader, Draft.find?_performAll,
    Draft.kind_performAll, textOf]
  cases steps.findSome? (Step.text? header) with
  | some text => rfl
  | none =>
      by_cases same : header = .responseType
      · rw [if_pos same, if_pos same.symm]
        rfl
      · rw [if_neg same, if_neg (Ne.symm same)]
        rfl

/-- A header of an answer reads as the text that the steps have for it, cleaned. -/
theorem read_compose (kind : ResponseType) (steps : List Step) (header : Header) :
    Option.Rel (fun text told => List.Forall₂ FieldValue.StandsFor text.toList told.toList)
      (textOf kind steps header) ((compose kind steps).fields.read header) := by
  rw [Fields.read, find?_compose]
  cases textOf kind steps header with
  | none => exact .none
  | some text =>
      rw [Option.map_some, Option.bind_some, FieldValue.text?_ofText]
      exact .some (FieldValue.forall₂_cleaned text)

theorem find?_contentLength (kind : ResponseType) (steps : List Step) :
    (compose kind steps).fields.find? contentLength =
      some (FieldValue.ofText (toString (compose kind steps).body.length)) :=
  Fields.find?_set_self _ _ _

theorem find?_of_foreign {name : FieldName} (isLength : name ≠ contentLength)
    (isHeader : ¬∃ header : Header, name = header.fieldName) :
    (compose kind steps).fields.find? name = none := by
  rw [Option.eq_none_iff_forall_ne_some]
  intro value found
  rcases known_compose (Fields.mem_of_find? found) with same | known
  · exact isLength same
  · exact isHeader known

/-- A step that is not about a part has nothing to say about it, so it can be left out. -/
theorem findSome?_filter {Found : Type} {view : Step → Option Found} {part : Part}
    (about : ∀ step, step.part ≠ part → view step = none) (steps : List Step) :
    (steps.filter fun step => step.part = part).findSome? view = steps.findSome? view := by
  induction steps with
  | nil => rfl
  | cons step later ih =>
      by_cases same : step.part = part
      · rw [List.filter_cons_of_pos (by simpa using same), List.findSome?_cons,
          List.findSome?_cons, ih]
      · rw [List.filter_cons_of_neg (by simpa using same), List.findSome?_cons,
          about step same, ih]

/-- Two lists of steps say the same about each part, in the same order. -/
def SameByParts (steps reordered : List Step) : Prop :=
  ∀ part, (steps.filter fun step => step.part = part) =
    reordered.filter fun step => step.part = part

namespace SameByParts

variable (same : SameByParts steps reordered)

include same

theorem findSome? {Found : Type} {view : Step → Option Found} {part : Part}
    (about : ∀ step, step.part ≠ part → view step = none) :
    steps.findSome? view = reordered.findSome? view := by
  rw [← findSome?_filter about, same part, findSome?_filter about]

theorem findSome?_reverse {Found : Type} {view : Step → Option Found} {part : Part}
    (about : ∀ step, step.part ≠ part → view step = none) :
    steps.reverse.findSome? view = reordered.reverse.findSome? view := by
  rw [← findSome?_filter about, List.filter_reverse, same part, ← List.filter_reverse,
    findSome?_filter about]

theorem textOf (kind : ResponseType) (header : Header) :
    textOf kind steps header = textOf kind reordered header := by
  have about : ∀ step : Step, step.part ≠ .header header → step.text? header = none := by
    intro step differs
    cases step with
    | header name => exact if_neg fun isName => differs (congrArg Part.header isName)
    | serializedContent => exact if_neg fun isName => differs (congrArg Part.header isName)
    | body | status => rfl
  rw [Response.textOf, same.findSome? about, Response.textOf]

theorem bodyOf : bodyOf steps = bodyOf reordered := by
  have about : ∀ step : Step, step.part ≠ .body → step.body? = none := by
    intro step differs
    cases step with
    | body => exact absurd rfl differs
    | header | serializedContent | status => rfl
  rw [Response.bodyOf, same.findSome?_reverse about, Response.bodyOf]

theorem statusOf : statusOf steps = statusOf reordered := by
  have about : ∀ step : Step, step.part ≠ .status → step.status? = none := by
    intro step differs
    cases step with
    | status => exact absurd rfl differs
    | header | serializedContent | body => rfl
  rw [Response.statusOf, same.findSome?_reverse about, Response.statusOf]

/-- Steps that are about different parts may come in any order. -/
theorem sorted_compose (kind : ResponseType) :
    (compose kind steps).fields.sorted = (compose kind reordered).fields.sorted := by
  refine Fields.sorted_eq (distinct_compose kind steps) (distinct_compose kind reordered) ?_
  intro name
  by_cases isLength : name = contentLength
  · rw [isLength, find?_contentLength, find?_contentLength, compose_body, compose_body,
      same.bodyOf]
  · by_cases isHeader : ∃ header : Header, name = header.fieldName
    · obtain ⟨header, rfl⟩ := isHeader
      rw [find?_compose, find?_compose, same.textOf]
    · rw [find?_of_foreign isLength isHeader, find?_of_foreign isLength isHeader]

end SameByParts

/-- An answer that some steps compose.  Each header of the protocol has the value of the first step
that sets it, once, or none at all if no step does, except that the kind of the answer is always
told.  It reads as the text of that step, character by character, with a space for each control and
a question mark for each character beyond ASCII.  The length of the body is told once and in
decimal, and body and status are those of the last steps that set them.  Other names do not occur,
and steps about different parts may come in any order. -/
theorem composed (kind : ResponseType) (steps : List Step) :
    let response := compose kind steps
    (∀ header : Header, response.fields.values header.fieldName =
      (textOf kind steps header).toList.map FieldValue.ofText) ∧
      (∀ header : Header, Option.Rel
        (fun text told => List.Forall₂ FieldValue.StandsFor text.toList told.toList)
        (textOf kind steps header) (response.fields.read header)) ∧
      (response.fields.values Header.responseType.fieldName).length = 1 ∧
      (∃ length, response.fields.values contentLength = [length] ∧
        length.text? = some (toString response.body.length)) ∧
      (∀ entry ∈ response.fields.entries,
        entry.1 = contentLength ∨ ∃ header : Header, entry.1 = header.fieldName) ∧
      response.body = bodyOf steps ∧ response.status = statusOf steps ∧
      ∀ reordered, SameByParts steps reordered →
        let other := compose kind reordered
        other.status = response.status ∧ other.body = response.body ∧
          other.fields.sorted = response.fields.sorted := by
  intro response
  have distinct := distinct_compose kind steps
  have values (header : Header) : response.fields.values header.fieldName =
      (textOf kind steps header).toList.map FieldValue.ofText := by
    rw [Fields.values_eq_toList distinct, find?_compose]
    cases textOf kind steps header <;> rfl
  refine ⟨values, read_compose kind steps, ?_, ?_, fun _ member => known_compose member,
    compose_body kind steps, compose_status kind steps, ?_⟩
  · rw [values, textOf, if_pos rfl, List.length_map]
    cases steps.findSome? (Step.text? .responseType) <;> rfl
  · refine ⟨FieldValue.ofText (toString response.body.length), ?_, ?_⟩
    · rw [Fields.values_eq_toList distinct, find?_contentLength]
      rfl
    · rw [FieldValue.text?_ofText, FieldValue.cleaned_toString]
  · intro reordered same other
    refine ⟨?_, ?_, (same.sorted_compose kind).symm⟩
    · rw [compose_status, compose_status, same.statusOf]
    · rw [compose_body, compose_body, same.bodyOf]

end Composing

end Response
end RemoteCall
