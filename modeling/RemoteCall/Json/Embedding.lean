/-!
# Embedded documents

A document can lie inside another one as a text, so that it is carried along as it was written.
An object whose first key is the embedding key stands for the value of such a document: the key's
value is its text, and nothing else may stand in the object.
-/

namespace RemoteCall
namespace Json

def embeddingKey : String := "$serde_json::private::RawValue"

/-- What is said to be expected under the embedding key. -/
def embeddingExpectation : String := "raw value"

/-- Whether some members announce an embedded document: only the first one counts. -/
def announcesEmbedding {α : Type} : List (String × α) → Bool
  | [] => false
  | (key, _) :: _ => key == embeddingKey

end Json
end RemoteCall
