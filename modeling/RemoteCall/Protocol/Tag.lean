import RemoteCall.Protocol.Header

/-!
# Tags of answers

An answer is tagged with its kind.  An answer that reports a failure is tagged further with what
is known about the work the call asked for: not begun, perhaps done, or done.
-/

namespace RemoteCall

/-- The kinds of answers (`RpcResponseType`). -/
inductive ResponseType where
  | success
  | retry
  | redirect
  | throwable
  deriving DecidableEq, Repr

namespace ResponseType

/-- All kinds, in the order in which they are listed (`RpcResponseType::ALL`). -/
def all : List ResponseType := [.success, .retry, .redirect, .throwable]

/-- The tag of a kind (`RpcResponseType::as_str`). -/
def tag : ResponseType → String
  | .success => "success"
  | .retry => "retry"
  | .redirect => "redirect"
  | .throwable => "throwable"

/-- All tags in one text (`RpcResponseType::joined_values`). -/
def joinedTags : String := String.intercalate ", " (all.map tag)

def ofTag? (text : String) : Option ResponseType := all.find? fun kind => kind.tag == text

/-- The kind with a tag, or why there is none (`RpcResponseType::from_str`). -/
def parse (text : String) : Except HeaderFault ResponseType :=
  match ofTag? text with
  | some kind => .ok kind
  | none => .error (.unknownValue .responseType text)

end ResponseType

/-- What is known about the work of a failed call (`RpcThrowableType`). -/
inductive Certainty where
  /-- The work was not begun. -/
  | unprocessed
  /-- The work may or may not have been done. -/
  | possiblyProcessed
  /-- The work was done and its result lost. -/
  | processed
  deriving DecidableEq, Repr

namespace Certainty

def all : List Certainty := [.unprocessed, .possiblyProcessed, .processed]

/-- The tag of a certainty (`RpcThrowableType::as_str`). -/
def tag : Certainty → String
  | .unprocessed => "unprocessed"
  | .possiblyProcessed => "possiblyProcessed"
  | .processed => "processed"

def ofTag? (text : String) : Option Certainty := all.find? fun certainty => certainty.tag == text

/-- The certainty with a tag, or why there is none (`RpcThrowableType::from_str`). -/
def parse (text : String) : Except HeaderFault Certainty :=
  match ofTag? text with
  | some certainty => .ok certainty
  | none => .error (.unknownValue .throwableType text)

end Certainty
end RemoteCall
