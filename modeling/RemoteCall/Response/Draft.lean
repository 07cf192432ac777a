import RemoteCall.Http.Message
import RemoteCall.Protocol.Tag

/-!
# Composing answers

An answer is composed around its kind.  A header that has been set stays as it is, while body and
status are those set last; the kind and the length of the body are added at the end.
-/

namespace RemoteCall
namespace Response

/-- An answer under composition (`ResponseBuilder`). -/
structure Draft where
  kind : ResponseType
  status : Status
  body : Bytes
  fields : Fields
  deriving DecidableEq, Repr

/-- The field that gives the length of the body. -/
def contentLength : FieldName := ⟨"content-length"⟩

namespace Draft

/-- The draft of an answer of a kind (`ResponseBuilder::new`). -/
def ofKind (kind : ResponseType) : Draft := ⟨kind, .ok, [], .empty⟩

/-- Sets the body (`ResponseBuilder::with_content`). -/
def withBody (draft : Draft) (body : Bytes) : Draft := { draft with body := body }

/-- Sets the status (`ResponseBuilder::with_status`). -/
def withStatus (draft : Draft) (status : Status) : Draft := { draft with status := status }

/-- Sets a header, unless it has been set (`ResponseBuilder::with_header`). -/
def withHeader (draft : Draft) (header : Header) (text : String) : Draft :=
  if draft.fields.has header then draft
  else { draft with fields := draft.fields.write header text }

/-- Says that the body is an encoded result (`ResponseBuilder::with_serialized_content`). -/
def withSerializedContent (draft : Draft) : Draft := draft.withHeader .serializedContent Header.yes

/-- The answer of a draft, with its kind and the length of its body (`ResponseBuilder::build`). -/
def finish (draft : Draft) : Response :=
  let tagged := draft.withHeader .responseType draft.kind.tag
  { status := draft.status
    fields := tagged.fields.set contentLength (FieldValue.ofText (toString draft.body.length))
    body := draft.body }

end Draft
end Response
end RemoteCall
