/-! Addresses of requests: a scheme and an authority, which may be left out together, a path and a
query. A fragment is not part of what is requested and is dropped. -/
namespace ChainIndexer.Http

structure Server where
  scheme : String
  authority : String
  deriving DecidableEq, Repr

structure Url where
  /-- Nothing where the address is a path alone. -/
  server : Option Server
  path : String
  query : Option String
  deriving DecidableEq, Repr

/-! The authority: user information before an at sign, a host, and a number after a colon. A host in
brackets may hold colons of its own. What a percent sign encodes may stand in user information
or in brackets, but not in a name. -/

/-- What has been seen of an authority since the last at sign or closing bracket, and which
brackets there were. -/
structure AuthorityScan where
  colons : Nat := 0
  percent : Bool := false
  opened : Bool := false
  closed : Bool := false
  deriving DecidableEq, Repr

namespace AuthorityScan

/-- Colons that may follow one another before it is clear what they belong to. -/
def colonLimit : Nat := 8

def isPlain (c : Char) : Bool := c.isAlphanum || "!$&'()*+,-.;=_~".toList.contains c

def step (s : AuthorityScan) (c : Char) : Option AuthorityScan :=
  if c = ':' then
    if s.colons < colonLimit then some { s with colons := s.colons + 1 } else none
  else if c = '[' then
    if s.percent || s.opened then none else some { s with opened := true }
  else if c = ']' then
    if s.opened && !s.closed then some { s with closed := true, colons := 0, percent := false }
    else none
  else if c = '@' then some { s with colons := 0, percent := false }
  else if c = '%' then some { s with percent := true }
  else if isPlain c then some s
  else none

def mayEnd (s : AuthorityScan) : Bool := s.opened == s.closed && s.colons ≤ 1 && !s.percent

end AuthorityScan

namespace Url

/-- Whether characters are an authority. There must be something, and something after an at
sign. -/
def isAuthority (cs : List Char) : Bool :=
  match cs.getLast?, cs.foldlM AuthorityScan.step {} with
  | some last, some scan => last != '@' && scan.mayEnd
  | _, _ => false

def isSchemeChar (c : Char) : Bool := c.isAlphanum || "+-.~".toList.contains c

def schemeLimit : Nat := 64

/-- The scheme. Those of the web have one form, other ones are left as they are. -/
def scheme (cs : List Char) : String :=
  let lower := String.ofList (cs.map Char.toLower)
  if lower = "http" ∨ lower = "https" then lower else String.ofList cs

def isVisible (c : Char) : Bool := 0x21 ≤ c.toNat && c.toNat ≤ 0x7E

def isPathChar (c : Char) : Bool := isVisible c && !"#<>?\x60".toList.contains c

def isQueryChar (c : Char) : Bool := isVisible c && !"\"#<>".toList.contains c

def query? : List Char → Option (List Char)
  | '?' :: rest => some (rest.takeWhile (· != '#'))
  | _ => none

def ofTarget? (server : Option Server) (cs : List Char) : Option Url :=
  let path := cs.takeWhile fun c => c != '?' && c != '#'
  let query := query? (cs.dropWhile fun c => c != '?' && c != '#')
  if path.all isPathChar && query.all (·.all isQueryChar) then
    some { server, path := String.ofList path, query := query.map String.ofList }
  else none

def ofAuthority? (scheme : String) (cs : List Char) : Option Url :=
  let authority := cs.takeWhile fun c => c != '/' && c != '?' && c != '#'
  if isAuthority authority then
    ofTarget? (some { scheme, authority := String.ofList authority })
      (cs.dropWhile fun c => c != '/' && c != '?' && c != '#')
  else none

def sizeLimit : Nat := 65534

/-- Reads an address, which has a scheme or is a path alone. -/
def parse? (s : String) : Option Url :=
  if sizeLimit < s.utf8ByteSize then none
  else
    match s.toList, s.toList.dropWhile isSchemeChar with
    | '/' :: rest, _ => ofTarget? none ('/' :: rest)
    | cs, ':' :: '/' :: '/' :: rest =>
      let name := cs.takeWhile isSchemeChar
      if name.length ≤ schemeLimit then ofAuthority? (scheme name) rest else none
    | _, _ => none

/-- The address without its fragment. A server is asked for its root if for nothing else. -/
def text (u : Url) : String :=
  let path := if u.server.isSome && u.path.isEmpty then "/" else u.path
  (match u.server with
    | some o => o.scheme ++ "://" ++ o.authority
    | none => "") ++
  path ++
  (match u.query with
    | some query => "?" ++ query
    | none => "")

end Url
end ChainIndexer.Http
