import RemoteCall.Proofs.Response.Answers

/-!
# What redirects say

A redirect names a host always, and a path, a port and its directness only where they are given.
Each of the four is read by its receiver as it was written, and as missing where it was not given.
-/

namespace RemoteCall
namespace Response

namespace Draft

variable {header other : Header}

/-- Sets a header where there is a text for it. -/
def withOptional (draft : Draft) (header : Header) : Option String → Draft
  | some text => draft.withHeader header text
  | none => draft

theorem read_of_not_has {fields : Fields} (unset : fields.has header = false) :
    fields.read header = none := by
  have missing : fields.find? header.fieldName = none := by
    simpa [Fields.has, Fields.contains] using unset
  rw [Fields.read, missing]
  rfl

section Optional

variable {draft : Draft} (text : Option String)

theorem read_withOptional_self (unset : draft.fields.has header = false) :
    (draft.withOptional header text).fields.read header = text.map FieldValue.cleaned := by
  cases text with
  | none => exact read_of_not_has unset
  | some text => exact read_withHeader_self unset text

theorem has_withOptional_self (unset : draft.fields.has header = false) :
    (draft.withOptional header text).fields.has header = text.isSome := by
  cases text with
  | none => exact unset
  | some text => exact has_withHeader_self draft text

theorem read_withOptional_of_ne (differs : other ≠ header) :
    (draft.withOptional header text).fields.read other = draft.fields.read other := by
  cases text with
  | none => rfl
  | some text => exact read_withHeader_of_ne draft text differs

theorem has_withOptional_of_ne (differs : other ≠ header) :
    (draft.withOptional header text).fields.has other = draft.fields.has other := by
  cases text with
  | none => rfl
  | some text => exact has_withHeader_of_ne draft text differs

@[simp]
theorem withOptional_kind : (draft.withOptional header text).kind = draft.kind := by
  cases text with
  | none => rfl
  | some text => exact withHeader_kind draft text

@[simp]
theorem withOptional_status : (draft.withOptional header text).status = draft.status := by
  cases text with
  | none => rfl
  | some text => exact withHeader_status draft text

@[simp]
theorem withOptional_body : (draft.withOptional header text).body = draft.body := by
  cases text with
  | none => rfl
  | some text => exact withHeader_body draft text

end Optional

end Draft

namespace Redirection

variable (redirection : Redirection)

/-- The path, unless it says nothing. -/
def givenPath : Option String := redirection.path.filter (!·.isEmpty)

/-- The port, unless it says nothing. -/
def givenPort : Option UInt16 := redirection.port.filter (· ≠ 0)

def portText : Option String := redirection.givenPort.map fun port => toString port.toNat

def directionText : Option String := if redirection.direct then some Header.yes else none

theorem addPath_eq (draft : Draft) :
    redirection.addPath draft = draft.withOptional .redirectPath redirection.givenPath := by
  unfold addPath givenPath
  cases redirection.path with
  | none => rfl
  | some path => cases empty : path.isEmpty <;> simp [Option.filter, empty, Draft.withOptional]

theorem addPort_eq (draft : Draft) :
    redirection.addPort draft = draft.withOptional .redirectPort redirection.portText := by
  unfold addPort portText givenPort
  cases redirection.port with
  | none => rfl
  | some port => by_cases zero : port = 0 <;> simp [Option.filter, zero, Draft.withOptional]

theorem addDirection_eq (draft : Draft) :
    redirection.addDirection draft =
      draft.withOptional .directDirection redirection.directionText := by
  unfold addDirection directionText
  split <;> rfl

/-- The redirect before it is finished. -/
def draft : Draft :=
  ((((Draft.ofKind .redirect).withHeader .redirectHost redirection.host).withOptional
    .redirectPath redirection.givenPath).withOptional
      .redirectPort redirection.portText).withOptional
        .directDirection redirection.directionText

end Redirection

section Reading

variable (redirection : Redirection)

theorem redirect_eq : redirect redirection = redirection.draft.finish := by
  rw [redirect, Redirection.addPath_eq, Redirection.addPort_eq, Redirection.addDirection_eq]
  rfl

theorem redirect_read_responseType :
    (redirect redirection).fields.read .responseType =
      some (FieldValue.cleaned ResponseType.redirect.tag) := by
  have unset : redirection.draft.fields.has .responseType = false := by
    rw [Redirection.draft, Draft.has_withOptional_of_ne _ (by decide),
      Draft.has_withOptional_of_ne _ (by decide), Draft.has_withOptional_of_ne _ (by decide),
      Draft.has_withHeader_of_ne _ _ (by decide)]
    rfl
  have kind : redirection.draft.kind = .redirect := by simp [Redirection.draft, Draft.ofKind]
  rw [redirect_eq, Draft.read_finish_responseType unset, kind]

theorem redirect_read_redirectHost :
    (redirect redirection).fields.read .redirectHost =
      some (FieldValue.cleaned redirection.host) := by
  rw [redirect_eq, Draft.read_finish_of_ne _ (by decide), Redirection.draft,
    Draft.read_withOptional_of_ne _ (by decide), Draft.read_withOptional_of_ne _ (by decide),
    Draft.read_withOptional_of_ne _ (by decide)]
  exact Draft.read_withHeader_self rfl redirection.host

theorem redirect_read_redirectPath :
    (redirect redirection).fields.read .redirectPath =
      redirection.givenPath.map FieldValue.cleaned := by
  rw [redirect_eq, Draft.read_finish_of_ne _ (by decide), Redirection.draft,
    Draft.read_withOptional_of_ne _ (by decide), Draft.read_withOptional_of_ne _ (by decide)]
  refine Draft.read_withOptional_self _ ?_
  exact Draft.has_withHeader_of_ne _ _ (by decide)

theorem redirect_read_redirectPort :
    (redirect redirection).fields.read .redirectPort =
      redirection.portText.map FieldValue.cleaned := by
  rw [redirect_eq, Draft.read_finish_of_ne _ (by decide), Redirection.draft,
    Draft.read_withOptional_of_ne _ (by decide)]
  refine Draft.read_withOptional_self _ ?_
  rw [Draft.has_withOptional_of_ne _ (by decide)]
  exact Draft.has_withHeader_of_ne _ _ (by decide)

theorem redirect_has_directDirection :
    (redirect redirection).fields.has .directDirection = redirection.direct := by
  have given : redirection.directionText.isSome = redirection.direct := by
    unfold Redirection.directionText
    cases redirection.direct <;> rfl
  rw [redirect_eq, Draft.has_finish_of_ne _ (by decide), Redirection.draft, ← given]
  refine Draft.has_withOptional_self _ ?_
  rw [Draft.has_withOptional_of_ne _ (by decide), Draft.has_withOptional_of_ne _ (by decide)]
  exact Draft.has_withHeader_of_ne _ _ (by decide)

@[simp]
theorem redirect_status : (redirect redirection).status = .ok := by
  simp [redirect_eq, Redirection.draft, Draft.ofKind]

@[simp]
theorem redirect_body : (redirect redirection).body = [] := by
  simp [redirect_eq, Redirection.draft, Draft.ofKind]

end Reading

end Response

namespace Flight

theorem responseKind?_redirect (redirection : Response.Redirection) :
    responseKind? (Response.redirect redirection).head.fields = some .redirect := by
  rw [responseKind?, Response.head, Response.redirect_read_responseType, Option.bind_some,
    ResponseType.ofTag?_cleaned_tag]

end Flight
end RemoteCall
