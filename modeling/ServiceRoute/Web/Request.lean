import ServiceRoute.Text.Blank
import ServiceRoute.Web.Domain

/-! # Requests

What a server is asked for under a web address. An address names a host, perhaps
with a user and a port, then a path, a query and a fragment. The target of the
request is the path with its dot segments resolved, and the query, both escaped;
the fragment is not sent. A backslash counts as a slash.
-/

namespace ServiceRoute.Web

open Text

/-- A request for a web address: the address as it was given, and the target. -/
structure Request where
  url : String
  target : String
deriving DecidableEq, Inhabited

section Authority

def isSlash (c : Char) : Bool :=
  c == '/' || c == '\\'

def endsPath (c : Char) : Bool :=
  c == '?' || c == '#'

def endsAuthority (c : Char) : Bool :=
  isSlash c || endsPath c

/-- The address without blanks and control characters at its ends and without
tabs and line breaks inside. -/
def significant (url : String) : List Char :=
  (dropEnds (· ≤ ' ') url.toList).filter fun c => c ≠ '\t' ∧ c ≠ '\n' ∧ c ≠ '\r'

/-- What follows the scheme of a web address and the slashes behind it. -/
def behindScheme? (cs : List Char) : Option (List Char) :=
  let scheme := String.ofList ((cs.takeWhile (· != ':')).map Char.toLower)
  if scheme = "http" ∨ scheme = "https" then
    match cs.dropWhile (· != ':') with
    | _ :: rest => some (rest.dropWhile isSlash)
    | [] => none
  else none

/-- The authority without the user, who ends at the last at sign. -/
def withoutUser (authority : List Char) : List Char :=
  (authority.reverse.takeWhile (· != '@')).reverse

/-- Cuts off the port at the first colon outside of brackets. -/
def splitPort (bracketed : Bool) : List Char → List Char × List Char
  | [] => ([], [])
  | c :: rest =>
    if c = ':' ∧ !bracketed then ([], c :: rest)
    else
      let (host, port) := splitPort (c == '[' || bracketed && c != ']') rest
      (c :: host, port)

/-- A host is a domain name, or a long address in brackets. -/
def isHost : List Char → Bool
  | '[' :: inside => inside.getLast? == some ']' && isLongAddress inside.dropLast
  | name => isDomain name

/-- A port has at most 16 bits; it may be left out, with its colon or without. -/
def isPort (port : List Char) : Bool :=
  let digits := port.drop 1
  digits.all Char.isDigit && digitsValue 10 digits < 0x10000

end Authority

section Target

/-- A segment that stands for the place it is in; a dot may be escaped. -/
def isHere (segment : List Char) : Bool :=
  [".", "%2e"].contains (String.ofList (segment.map Char.toLower))

/-- A segment that leads back to the one before. -/
def isBack (segment : List Char) : Bool :=
  ["..", ".%2e", "%2e.", "%2e%2e"].contains (String.ofList (segment.map Char.toLower))

/-- A segment that names a drive, such as `C:`. Nothing leads back from a drive. -/
def isDrive : List Char → Bool
  | [letter, mark] => letter.isAlpha && (mark == ':' || mark == '|')
  | _ => false

/-- Goes on by one segment; the segments passed are in reverse order. -/
def enter (passed : List (List Char)) (segment : List Char) : List (List Char) :=
  if isBack segment then
    if passed.head?.any isDrive then passed else passed.drop 1
  else if isHere segment then passed
  else segment :: passed

/-- The segments that remain of a path. One that ends in a dot segment ends in a slash. -/
def resolveDots (path : List (List Char)) : List (List Char) :=
  let passed := path.foldl enter []
  let ended := path.getLast?.any fun last => isBack last || isHere last
  (if ended then [] :: passed else passed).reverse

/-- The path of a request, which always begins with a slash. -/
def targetPath (path : List Char) : List Char :=
  (resolveDots (pieces isSlash (path.drop 1))).flatMap fun segment =>
    '/' :: escapeAll isUnsafeInPath segment

/-- The query of a request with its question mark, if there is one. -/
def targetQuery : List Char → List Char
  | '?' :: rest => '?' :: escapeAll isUnsafeInQuery (rest.takeWhile (· != '#'))
  | _ => []

def target (cs : List Char) : String :=
  String.ofList
    (targetPath (cs.takeWhile (!endsPath ·)) ++ targetQuery (cs.dropWhile (!endsPath ·)))

end Target

/-- The request for an address, if it is a web address. -/
def Request.ofUrl? (url : String) : Option Request := do
  let cs ← behindScheme? (significant url)
  let (host, port) := splitPort false (withoutUser (cs.takeWhile (!endsAuthority ·)))
  if isHost host && isPort port then
    some ⟨url, Web.target (cs.dropWhile (!endsAuthority ·))⟩
  else none

end ServiceRoute.Web
