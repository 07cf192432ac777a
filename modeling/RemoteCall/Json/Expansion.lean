import RemoteCall.Json.Mismatch
import RemoteCall.Json.Reader

/-!
# Expanding embedded documents

A document that is read has its embedded documents replaced by their values.  In a value that is
already in memory the members of an object come by key, so that the embedding key may be the first
one although it was not the first one written.  Whoever asks for a value of any kind gets it with
these embedded documents replaced as well.
-/

namespace RemoteCall
namespace Json
namespace Value

/-- The value of the document that some members embed; there must be no others after it. -/
def embedded : List (String × Value) → Except Mismatch Value
  | [] => .ok (.object [])
  | (_, .string text) :: later =>
      match read (Text.encodeUtf8 text) with
      | .error fault => .error (.unreadable fault)
      | .ok value =>
          if later.isEmpty then .ok value
          else .error (.wrongLength (later.length + 1) "fewer elements in map")
  | (_, found) :: _ => .error (.wrongType found embeddingExpectation)

mutual

/-- The value with embedded documents replaced by their values. -/
def expand : Value → Except Mismatch Value
  | .array items => (expandItems items).map .array
  | .object members =>
      if announcesEmbedding members then embedded members
      else (expandMembers members).map .object
  | other => .ok other

def expandItems : List Value → Except Mismatch (List Value)
  | [] => .ok []
  | item :: later =>
      match item.expand with
      | .error mismatch => .error mismatch
      | .ok expanded => (expandItems later).map (expanded :: ·)

def expandMembers : List (String × Value) → Except Mismatch (List (String × Value))
  | [] => .ok []
  | (key, value) :: later =>
      match value.expand with
      | .error mismatch => .error mismatch
      | .ok expanded => (expandMembers later).map ((key, expanded) :: ·)

end

end Value
end Json
end RemoteCall
