import RemoteCall.Proofs.Response.Answers
import RemoteCall.Proofs.Text.Utf8

/-!
# Reports of errors

The answer that reports an error spreads the report over three headers and the body, and its
receiver puts a failure together from them.  What the receiver makes of the answer is said here
once, as the failure of the report, so that nothing else has to read the headers of the answer
again.  Only the class can change on the way, as it travels in a header, and only a message that
says nothing is replaced.
-/

namespace RemoteCall

namespace FailureKind

theorem ofCertainty_injective : Function.Injective ofCertainty := by
  intro first second same
  revert same
  cases first <;> cases second <;> decide

end FailureKind

namespace Failure

theorem reportedMessage_of_read {fields : Fields} {body : Bytes} {certainty : Certainty}
    {name : String} (certain : reportedCertainty? fields = some certainty)
    (named : fields.read .throwableClass = some name) :
    reportedMessage fields body =
      "Throwable class: " ++ name ++ ". " ++
        ("Throwable message: " ++
          (if (Text.decodeLenient body).isEmpty then emptyMessage else Text.decodeLenient body) ++
            ". ") := by
  rw [reportedMessage, certain, named]
  simp only [String.empty_append]

end Failure

namespace Response

namespace Report

/-- The message of a report as it is told to the caller, who is told something in any case. -/
def told (report : Report) : String :=
  if report.message.isEmpty then Failure.emptyMessage else report.message

/-- What the caller learns of a report. -/
def failure (report : Report) (certainty : Certainty) : Failure where
  kind := .ofCertainty certainty
  message := "Throwable class: " ++ FieldValue.cleaned report.className ++ ". " ++
    ("Throwable message: " ++ report.told ++ ". ")
  code := report.code
  remoteClass := (some (FieldValue.cleaned report.className)).filter (!·.isEmpty)
  cause := none

end Report

/-- The receiver of a report learns the failure of the report. -/
@[simp]
theorem ofReport_throwable (report : Report) (certainty : Certainty) :
    Failure.ofReport (throwable report certainty).fields (throwable report certainty).body =
      report.failure certainty := by
  have named := throwable_read_throwableClass report certainty
  have certain := reportedCertainty?_throwable report certainty
  rw [Failure.ofReport, Failure.reportedMessage_of_read certain named, certain, named,
    reportedCode_throwable, throwable_body, Text.decodeLenient_encodeUtf8, Option.getD_some]
  rfl

namespace Report

theorem previousClass_failure (report : Report) (certainty : Certainty)
    (label : CauseOrigin → String) :
    (report.failure certainty).previousClass label =
      if (FieldValue.cleaned report.className).isEmpty then none
      else some (FieldValue.cleaned report.className) := by
  unfold Failure.previousClass failure
  cases empty : (FieldValue.cleaned report.className).isEmpty with
  | true =>
      simp only [Option.filter_some, empty]
      rfl
  | false =>
      simp only [Option.filter_some, empty, Bool.not_false, if_true]
      rfl

theorem cleaned_className_eq {report other : Report} {certainty claimed : Certainty}
    (same : report.failure certainty = other.failure claimed) :
    FieldValue.cleaned report.className = FieldValue.cleaned other.className := by
  have classes : (report.failure certainty).remoteClass = (other.failure claimed).remoteClass :=
    congrArg Failure.remoteClass same
  simp only [failure, Option.filter_some] at classes
  split at classes
  · split at classes
    · exact Option.some.inj classes
    · cases classes
  · split at classes
    · cases classes
    · -- Neither class is told, so both are empty.
      simp_all

theorem told_eq {report other : Report} {certainty claimed : Certainty}
    (same : report.failure certainty = other.failure claimed) : report.told = other.told := by
  have classes := cleaned_className_eq same
  have messages : (report.failure certainty).message = (other.failure claimed).message :=
    congrArg Failure.message same
  simp only [failure, classes] at messages
  have characters := congrArg String.toList messages
  simp only [String.toList_append, List.append_cancel_left_eq, List.append_cancel_right_eq]
    at characters
  exact String.toList_injective characters

end Report

/-- A report reaches the caller: with its certainty, its code and its message as they are, and with
its class as a header carries it.  Of two reports whose classes a header carries as they are, the
caller learns the same only if they say the same. -/
theorem report_survives (report : Report) (certainty : Certainty) :
    let received (sent : Report) (stated : Certainty) : Failure :=
      Failure.ofReport (throwable sent stated).fields (throwable sent stated).body
    let failure := received report certainty
    let name := FieldValue.cleaned report.className
    failure.kind = .ofCertainty certainty ∧
      failure.code = report.code ∧
      (∀ label, failure.previousClass label = if name.isEmpty then none else some name) ∧
      failure.message = "Throwable class: " ++ name ++ ". Throwable message: " ++
        (if report.message.isEmpty then Failure.emptyMessage else report.message) ++ ". " ∧
      (name = report.className ↔
        ∀ character ∈ report.className.toList, FieldValue.IsPlain character) ∧
      ∀ other claimed, received other claimed = failure →
        claimed = certainty ∧ other.code = report.code ∧
          FieldValue.cleaned other.className = name ∧ other.told = report.told := by
  intro received failure name
  have learned : ∀ sent stated, received sent stated = sent.failure stated := ofReport_throwable
  have failure_eq : failure = report.failure certainty := learned report certainty
  refine ⟨?_, ?_, ?_, ?_, FieldValue.cleaned_eq_self_iff, ?_⟩
  · rw [failure_eq]
    rfl
  · rw [failure_eq]
    rfl
  · rw [failure_eq]
    exact report.previousClass_failure certainty
  · rw [failure_eq]
    simp only [Report.failure, Report.told, String.append_assoc]
    rfl
  · intro other claimed same
    rw [learned, failure_eq] at same
    exact ⟨FailureKind.ofCertainty_injective (congrArg Failure.kind same),
      congrArg Failure.code same, Report.cleaned_className_eq same, Report.told_eq same⟩

end Response
end RemoteCall
