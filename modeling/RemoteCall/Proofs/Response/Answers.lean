import RemoteCall.Proofs.Http.WrittenFields
import RemoteCall.Proofs.Text.Numeral
import RemoteCall.Call.Flight
import RemoteCall.Response.Factory

/-!
# What composed answers say

An answer is composed header by header, and a header that was set once stays.  The facts below
follow a header through the composition, and then read the answers with a result and the answers
that report an error, as their receivers do.
-/

namespace RemoteCall

namespace ResponseType

theorem ofTag?_cleaned_tag (kind : ResponseType) :
    ofTag? (FieldValue.cleaned kind.tag) = some kind := by
  cases kind <;> decide

end ResponseType

namespace Certainty

theorem ofTag?_cleaned_tag (certainty : Certainty) :
    ofTag? (FieldValue.cleaned certainty.tag) = some certainty := by
  cases certainty <;> decide

end Certainty

namespace Response

theorem contentLength_ne_fieldName (header : Header) : header.fieldName ≠ contentLength := by
  intro same
  have sameName : header.wireName = "content-length" := congrArg FieldName.lower same
  revert sameName
  cases header <;> decide

namespace Draft

variable {header other : Header}

theorem read_withHeader_self {draft : Draft} (unset : draft.fields.has header = false)
    (text : String) :
    (draft.withHeader header text).fields.read header = some (FieldValue.cleaned text) := by
  simp [withHeader, unset]

@[simp]
theorem has_withHeader_self (draft : Draft) (text : String) :
    (draft.withHeader header text).fields.has header = true := by
  unfold withHeader
  split
  · assumption
  · simp

theorem read_withHeader_of_ne (draft : Draft) (text : String) (differs : other ≠ header) :
    (draft.withHeader header text).fields.read other = draft.fields.read other := by
  unfold withHeader
  split
  · rfl
  · exact Fields.read_write_of_ne _ _ differs

theorem has_withHeader_of_ne (draft : Draft) (text : String) (differs : other ≠ header) :
    (draft.withHeader header text).fields.has other = draft.fields.has other := by
  unfold withHeader
  split
  · rfl
  · exact Fields.has_write_of_ne _ _ differs

@[simp]
theorem withHeader_kind (draft : Draft) (text : String) :
    (draft.withHeader header text).kind = draft.kind := by
  unfold withHeader
  split <;> rfl

@[simp]
theorem withHeader_status (draft : Draft) (text : String) :
    (draft.withHeader header text).status = draft.status := by
  unfold withHeader
  split <;> rfl

@[simp]
theorem withHeader_body (draft : Draft) (text : String) :
    (draft.withHeader header text).body = draft.body := by
  unfold withHeader
  split <;> rfl

@[simp]
theorem withBody_fields (draft : Draft) (body : Bytes) :
    (draft.withBody body).fields = draft.fields := rfl

@[simp]
theorem withBody_status (draft : Draft) (body : Bytes) :
    (draft.withBody body).status = draft.status := rfl

@[simp]
theorem withBody_body (draft : Draft) (body : Bytes) : (draft.withBody body).body = body := rfl

theorem find?_finish (draft : Draft) (header : Header) :
    draft.finish.fields.find? header.fieldName =
      (draft.withHeader .responseType draft.kind.tag).fields.find? header.fieldName :=
  Fields.find?_set_of_ne _ _ (contentLength_ne_fieldName header)

theorem read_finish_of_ne (draft : Draft) (differs : header ≠ .responseType) :
    draft.finish.fields.read header = draft.fields.read header := by
  rw [← read_withHeader_of_ne draft draft.kind.tag differs]
  simp only [Fields.read, find?_finish]

theorem has_finish_of_ne (draft : Draft) (differs : header ≠ .responseType) :
    draft.finish.fields.has header = draft.fields.has header := by
  rw [← has_withHeader_of_ne draft draft.kind.tag differs]
  simp only [Fields.has, Fields.contains, find?_finish]

theorem read_finish_responseType {draft : Draft}
    (unset : draft.fields.has .responseType = false) :
    draft.finish.fields.read .responseType = some (FieldValue.cleaned draft.kind.tag) := by
  rw [← read_withHeader_self unset draft.kind.tag]
  simp only [Fields.read, find?_finish]

@[simp]
theorem finish_status (draft : Draft) : draft.finish.status = draft.status := rfl

@[simp]
theorem finish_body (draft : Draft) : draft.finish.body = draft.body := rfl

end Draft

variable (report : Report) (certainty : Certainty) (result : Bytes)

theorem throwable_read_responseType :
    (throwable report certainty).fields.read .responseType =
      some (FieldValue.cleaned ResponseType.throwable.tag) :=
  Draft.read_finish_responseType rfl

theorem throwable_read_throwableType :
    (throwable report certainty).fields.read .throwableType =
      some (FieldValue.cleaned certainty.tag) := by
  unfold throwable
  rw [Draft.read_finish_of_ne _ (by decide), Draft.withBody_fields,
    Draft.read_withHeader_of_ne _ _ (by decide), Draft.read_withHeader_of_ne _ _ (by decide)]
  exact Draft.read_withHeader_self rfl _

theorem throwable_read_throwableCode :
    (throwable report certainty).fields.read .throwableCode =
      some (FieldValue.cleaned (toString report.code.toInt)) := by
  unfold throwable
  rw [Draft.read_finish_of_ne _ (by decide), Draft.withBody_fields,
    Draft.read_withHeader_of_ne _ _ (by decide)]
  refine Draft.read_withHeader_self ?_ _
  exact Draft.has_withHeader_of_ne _ _ (by decide)

theorem throwable_read_throwableClass :
    (throwable report certainty).fields.read .throwableClass =
      some (FieldValue.cleaned report.className) := by
  unfold throwable
  rw [Draft.read_finish_of_ne _ (by decide), Draft.withBody_fields]
  refine Draft.read_withHeader_self ?_ _
  rw [Draft.has_withHeader_of_ne _ _ (by decide)]
  exact Draft.has_withHeader_of_ne _ _ (by decide)

@[simp]
theorem throwable_body : (throwable report certainty).body = Text.encodeUtf8 report.message := by
  simp [throwable]

/-- The certainty with which an error is reported reaches the receiver. -/
@[simp]
theorem reportedCertainty?_throwable :
    Failure.reportedCertainty? (throwable report certainty).fields = some certainty := by
  rw [Failure.reportedCertainty?, throwable_read_throwableType, Option.bind_some,
    Certainty.ofTag?_cleaned_tag]

/-- The code of an error reaches the receiver. -/
@[simp]
theorem reportedCode_throwable :
    Failure.reportedCode (throwable report certainty).fields = report.code := by
  have plain : ∀ character ∈ (toString report.code.toInt).toList, FieldValue.IsPlain character :=
    fun character member => FieldValue.isPlain_of_isNumeral
      (Text.isNumeral_toString report.code.toInt character member)
  have solid : ∀ character ∈ (toString report.code.toInt).toList,
      Text.isBlank character = false :=
    fun character member => (Text.isNumeral_toString report.code.toInt character member).not_isBlank
  have read : Text.readInteger? 0x8000000000000000 (toString report.code.toInt) =
      some report.code.toInt :=
    Text.readInteger?_toString report.code.le_toInt report.code.toInt_lt
  rw [Failure.reportedCode, throwable_read_throwableCode, FieldValue.cleaned_of_isPlain plain,
    Option.bind_some, Text.trimmed_of_not_isBlank solid, read]
  exact Int64.ofInt_toInt report.code

theorem success_read_responseType :
    (success result).fields.read .responseType =
      some (FieldValue.cleaned ResponseType.success.tag) := by
  refine Draft.read_finish_responseType ?_
  exact Draft.has_withHeader_of_ne _ _ (by decide)

theorem success_read_throwableType : (success result).fields.read .throwableType = none := by
  unfold success Draft.withSerializedContent
  rw [Draft.read_finish_of_ne _ (by decide), Draft.read_withHeader_of_ne _ _ (by decide)]
  rfl

@[simp]
theorem reportedCertainty?_success :
    Failure.reportedCertainty? (success result).fields = none := by
  rw [Failure.reportedCertainty?, success_read_throwableType, Option.bind_none]

theorem success_has_serializedContent :
    (success result).fields.has .serializedContent = true := by
  unfold success Draft.withSerializedContent
  rw [Draft.has_finish_of_ne _ (by decide)]
  exact Draft.has_withHeader_self _ _

@[simp]
theorem success_status : (success result).status = .ok := by
  simp [success, Draft.withSerializedContent, Draft.ofKind]

@[simp]
theorem success_body : (success result).body = result := by
  simp [success, Draft.withSerializedContent]

end Response

namespace Flight

theorem responseKind?_throwable (report : Response.Report) (certainty : Certainty) :
    responseKind? (Response.throwable report certainty).head.fields = some .throwable := by
  rw [responseKind?, Response.head, Response.throwable_read_responseType, Option.bind_some,
    ResponseType.ofTag?_cleaned_tag]

theorem responseKind?_success (result : Bytes) :
    responseKind? (Response.success result).head.fields = some .success := by
  rw [responseKind?, Response.head, Response.success_read_responseType, Option.bind_some,
    ResponseType.ofTag?_cleaned_tag]

end Flight
end RemoteCall
