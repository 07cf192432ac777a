import RemoteCall.Uri.Basic

/-!
# Reading URIs

A text is a path, an asterisk, an authority alone, or a scheme followed by an authority and an
optional path and query.  The authority is checked by one pass over its characters; colons and
percent signs count only outside the user information and outside brackets.
-/

namespace RemoteCall
namespace Uri

inductive Fault where
  | tooLong
  | empty
  | invalidCharacter
  | invalidAuthority
  | invalidFormat
  | schemeTooLong
  deriving DecidableEq, Repr

def Fault.message : Fault → String
  | .tooLong => "uri too long"
  | .empty => "empty string"
  | .invalidCharacter => "invalid uri character"
  | .invalidAuthority => "invalid authority"
  | .invalidFormat => "invalid format"
  | .schemeTooLong => "scheme too long"

/-- The greatest number of bytes of a URI. -/
def lengthLimit : Nat := 65534

/-- The greatest number of characters of a scheme. -/
def schemeLimit : Nat := 64

/-- The greatest number of colons that may stand together, those of a bracketed address and one
before the port. -/
def colonLimit : Nat := 8

def isSchemeCharacter (character : Char) : Bool :=
  character.isAlphanum || "+-.~".toList.contains character

/-- Characters of an authority, apart from those that end or structure it. -/
def isAuthorityCharacter (character : Char) : Bool :=
  character.isAlphanum || "!$&'()*+,-.;=_~".toList.contains character

def isPathCharacter (character : Char) : Bool :=
  let code := character.toNat
  code == 0x21 || (0x24 ≤ code && code ≤ 0x3B) || code == 0x3D || (0x40 ≤ code && code ≤ 0x5F) ||
    (0x61 ≤ code && code ≤ 0x7E) || code == 0x22 || 0x80 ≤ code

def isQueryCharacter (character : Char) : Bool :=
  let code := character.toNat
  code == 0x21 || (0x24 ≤ code && code ≤ 0x3B) || code == 0x3D ||
    (0x3F ≤ code && code ≤ 0x7E) || 0x80 ≤ code

def endsAuthority (character : Char) : Bool :=
  character == '/' || character == '?' || character == '#'

structure AuthorityScan where
  colons : Nat
  opened : Bool
  closed : Bool
  percent : Bool
  endsWithAt : Bool
  deriving DecidableEq, Repr

namespace AuthorityScan

def start : AuthorityScan := ⟨0, false, false, false, false⟩

def step (scan : AuthorityScan) (character : Char) : Except Fault AuthorityScan :=
  if character = ':' then
    if colonLimit ≤ scan.colons then .error .invalidAuthority
    else .ok { scan with colons := scan.colons + 1, endsWithAt := false }
  else if character = '[' then
    if scan.percent || scan.opened then .error .invalidAuthority
    else .ok { scan with opened := true, endsWithAt := false }
  else if character = ']' then
    if !scan.opened || scan.closed then .error .invalidAuthority
    else .ok { scan with closed := true, colons := 0, percent := false, endsWithAt := false }
  else if character = '@' then
    .ok { scan with colons := 0, percent := false, endsWithAt := true }
  else if character = '%' then .ok { scan with percent := true, endsWithAt := false }
  else if isAuthorityCharacter character then .ok { scan with endsWithAt := false }
  else .error .invalidCharacter

def isComplete (scan : AuthorityScan) : Bool :=
  scan.opened == scan.closed && scan.colons ≤ 1 && !scan.endsWithAt && !scan.percent

end AuthorityScan

/-- The authority at the start of a text, and the rest. -/
def splitAuthority (characters : List Char) : Except Fault (List Char × List Char) :=
  let authority := characters.takeWhile fun character => !endsAuthority character
  match authority.foldlM AuthorityScan.step AuthorityScan.start with
  | .error fault => .error fault
  | .ok scan =>
      if scan.isComplete then
        .ok (authority, characters.dropWhile fun character => !endsAuthority character)
      else .error .invalidAuthority

/-- The text as an authority and nothing else. -/
def wholeAuthority (text : String) : Except Fault String :=
  if text.isEmpty then .error .empty
  else
    match splitAuthority text.toList with
    | .error fault => .error fault
    | .ok (_, []) => .ok text
    | .ok (_, _ :: _) => .error .invalidCharacter

def withoutFragment (characters : List Char) : List Char := characters.takeWhile (· ≠ '#')

/-- A path and a query, the latter if there is a question mark. -/
structure Locator where
  path : String
  query : Option String
  deriving DecidableEq, Repr

/-- The path and the query that a text holds; a fragment is dropped. -/
def locator (characters : List Char) : Except Fault Locator :=
  let kept := withoutFragment characters
  let path := kept.takeWhile (· ≠ '?')
  if !path.all isPathCharacter then .error .invalidCharacter
  else
    match kept.dropWhile (· ≠ '?') with
    | [] => .ok ⟨String.ofList path, none⟩
    | _ :: query =>
        if query.all isQueryCharacter then
          .ok ⟨String.ofList path, some (String.ofList query)⟩
        else .error .invalidCharacter

/-- What follows a prefix given in lower case, whatever the case of the text. -/
def afterLowercase? : List Char → List Char → Option (List Char)
  | [], rest => some rest
  | _ :: _, [] => none
  | expected :: others, character :: rest =>
      if character.toLower = expected then afterLowercase? others rest else none

/-- The scheme at the start of a text, and what follows the colon and the two slashes; nothing if
the text does not start with a scheme. -/
def splitScheme (characters : List Char) : Except Fault (Option (String × List Char)) :=
  match afterLowercase? "http://".toList characters with
  | some rest => .ok (some ("http", rest))
  | none =>
      match afterLowercase? "https://".toList characters with
      | some rest => .ok (some ("https", rest))
      | none =>
          if characters.length ≤ 3 then .ok none
          else
            let scheme := characters.takeWhile isSchemeCharacter
            match characters.dropWhile isSchemeCharacter with
            | ':' :: '/' :: '/' :: rest =>
                if schemeLimit < scheme.length then .error .schemeTooLong
                else .ok (some (String.ofList scheme, rest))
            | _ => .ok none

/-- A URI that does not start with a slash. -/
def ofAbsolute (characters : List Char) : Except Fault Uri :=
  match splitScheme characters with
  | .error fault => .error fault
  | .ok none =>
      match splitAuthority characters with
      | .error fault => .error fault
      | .ok (authority, []) => .ok ⟨none, some (String.ofList authority), "", none⟩
      | .ok (_, _ :: _) => .error .invalidFormat
  | .ok (some (_, [])) => .error .empty
  | .ok (some (scheme, rest)) =>
      match splitAuthority rest with
      | .error fault => .error fault
      | .ok ([], _) => .error .invalidFormat
      | .ok (authority, rest) =>
          match locator rest with
          | .error fault => .error fault
          | .ok found =>
              .ok ⟨some scheme, some (String.ofList authority), found.path, found.query⟩

/-- The URI that a text denotes, as `RpcClientBuilder::server_uri` and `RpcClient::build_request`
read it. -/
def parse (text : String) : Except Fault Uri :=
  if lengthLimit < text.utf8ByteSize then .error .tooLong
  else
    match text.toList with
    | [] => .error .empty
    | ['*'] => .ok ⟨none, none, "*", none⟩
    | '/' :: later =>
        match locator ('/' :: later) with
        | .error fault => .error fault
        | .ok found => .ok ⟨none, none, found.path, found.query⟩
    | [_] =>
        match wholeAuthority text with
        | .error fault => .error fault
        | .ok authority => .ok ⟨none, some authority, "", none⟩
    | characters => ofAbsolute characters

end Uri
end RemoteCall
