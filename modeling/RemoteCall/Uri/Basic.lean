import RemoteCall.Text.Numeral

/-!
# Uniform resource identifiers

A URI consists of a scheme, an authority, a path and a query, of which only some forms leave parts
out: a path alone, an authority alone, or all of them.  Nothing is normalised or decoded, so the
parts keep the text they were written with.
-/

namespace RemoteCall

/-- A URI.  The path is kept as it was written and may be empty. -/
structure Uri where
  scheme : Option String
  authority : Option String
  writtenPath : String
  query : Option String
  deriving DecidableEq, Repr

namespace Uri

/-- The part of an authority after the last `@`. -/
def hostAndPort (authority : List Char) : List Char :=
  (authority.reverse.takeWhile (· ≠ '@')).reverse

/-- The host of an authority, with its brackets if it has them. -/
def hostOf (authority : List Char) : List Char :=
  match hostAndPort authority with
  | '[' :: later => '[' :: (later.takeWhile (· ≠ ']') ++ [']'])
  | other => other.takeWhile (· ≠ ':')

/-- The port of an authority: what follows the last colon, if there is one and it is a number of
sixteen bits. -/
def portOf (authority : List Char) : Option UInt16 :=
  if authority.contains ':' then
    let digits := (authority.reverse.takeWhile (· ≠ ':')).reverse
    (Text.readNatural? 0x10000 (String.ofList digits)).map UInt16.ofNat
  else none

def host (uri : Uri) : Option String :=
  uri.authority.map fun authority => String.ofList (hostOf authority.toList)

/-- The port, if there is an authority that names one. -/
def port (uri : Uri) : Option UInt16 :=
  uri.authority.bind fun authority => portOf authority.toList

/-- The path.  An empty one is read as the root wherever there is a path at all, that is unless the
URI is an authority alone. -/
def path (uri : Uri) : String :=
  if uri.writtenPath.isEmpty && (uri.scheme.isSome || uri.query.isSome) then "/"
  else uri.writtenPath

def text (uri : Uri) : String :=
  let scheme :=
    match uri.scheme with
    | some scheme => scheme ++ "://"
    | none => ""
  let query :=
    match uri.query with
    | some query => "?" ++ query
    | none => ""
  scheme ++ uri.authority.getD "" ++ uri.path ++ query

/-- The path as written together with the query, the root if there is neither. -/
def pathAndQuery (uri : Uri) : String :=
  match uri.query with
  | some query => uri.writtenPath ++ "?" ++ query
  | none => if uri.writtenPath.isEmpty then "/" else uri.writtenPath

end Uri
end RemoteCall
