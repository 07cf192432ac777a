import RemoteCall.Failure.Basic
import RemoteCall.Http.Fields
import RemoteCall.Text.Numeral

/-!
# Failures reported by the other side

The answer that reports an error is turned back into a failure.  What it does not say is filled
in: an unknown certainty counts as possibly processed, a code that is no number as zero.
-/

namespace RemoteCall
namespace Failure

/-- What is said in place of an empty message (`EMPTY_THROWABLE_MESSAGE`). -/
def emptyMessage : String := "Throwable message is empty"

/-- The certainty that an answer states, if it does so readably (in `rpc_error_from_response`). -/
def reportedCertainty? (fields : Fields) : Option Certainty :=
  (fields.read .throwableType).bind Certainty.ofTag?

/-- The code that an answer states, zero if it states none (in `rpc_error_from_response`). -/
def reportedCode (fields : Fields) : Int64 :=
  match (fields.read .throwableCode).bind fun text =>
      Text.readInteger? 0x8000000000000000 (Text.trimmed text) with
  | some code => Int64.ofInt code
  | none => 0

/-- The message of the failure, with what the answer says and leaves out (in
`rpc_error_from_response`). -/
def reportedMessage (fields : Fields) (body : Bytes) : String :=
  let remark :=
    match reportedCertainty? fields with
    | some _ => ""
    | none => "Failed to get throwable type from response header. "
  let content := Text.decodeLenient body
  let told := remark ++ "Throwable message: " ++
    (if content.isEmpty then emptyMessage else content) ++ ". "
  match fields.read .throwableClass with
  | some name => "Throwable class: " ++ name ++ ". " ++ told
  | none => told ++ "Failed to get throwable class from response header. "

/-- The failure that an answer reports (`rpc_error_from_response`). -/
def ofReport (fields : Fields) (body : Bytes) : Failure where
  kind := .ofCertainty ((reportedCertainty? fields).getD .possiblyProcessed)
  message := reportedMessage fields body
  code := reportedCode fields
  remoteClass := (fields.read .throwableClass).filter (!·.isEmpty)
  cause := none

end Failure
end RemoteCall
