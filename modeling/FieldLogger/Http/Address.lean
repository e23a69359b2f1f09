import FieldLogger.Config
import FieldLogger.Uplink

/-!
Addresses of servers, `http://host[:port][/path]`, and the request that posts a text to one. Without a port it
is 80, and without a path it is `/`.
-/

namespace FieldLogger.Http

/-- Where a post goes. -/
structure Address where
  host : String
  port : UInt16
  path : String
  deriving DecidableEq, Repr

/-- What stands before and after the last `sep`. -/
def splitLast? (sep : Char) : List Char → Option (List Char × List Char)
  | [] => none
  | c :: cs =>
    match splitLast? sep cs with
    | some (before, after) => some (c :: before, after)
    | none => if c = sep then some ([], cs) else none

namespace Address

/-- The port of an address without one. -/
def defaultPort : UInt16 := 80

/-- A host with or without a port. -/
def authority? (cs : List Char) : Option (List Char × UInt16) :=
  match splitLast? ':' cs with
  | none => some (cs, defaultPort)
  | some (host, port) => (Text.unsigned? UInt16.size port).map fun p => (host, UInt16.ofNat p)

/-- Reads an address after its scheme. -/
def afterScheme? (cs : List Char) : Option Address :=
  let authority := cs.takeWhile (· != '/')
  let path := cs.drop authority.length
  match authority? authority with
  | none => none
  | some (host, port) =>
    if host.isEmpty then none
    else some ⟨String.ofList host, port, if path.isEmpty then "/" else String.ofList path⟩

def parse (url : String) : Except NetworkError Address :=
  let cs := url.toList
  let found := if Config.scheme.isPrefixOf cs then afterScheme? (cs.drop Config.scheme.length) else none
  match found with
  | some a => .ok a
  | none => .error (.invalidUrl url)

end Address

/-- The request that posts a text: a request line and four headers, a blank line, and the text. -/
def request (a : Address) (body : String) : String :=
  "POST " ++ a.path ++ " HTTP/1.1\r\n" ++
  "Host: " ++ a.host ++ ":" ++ toString a.port.toNat ++ "\r\n" ++
  "Content-Type: text/plain\r\n" ++
  "Content-Length: " ++ toString body.utf8ByteSize ++ "\r\n" ++
  "Connection: close\r\n" ++
  "\r\n" ++ body

end FieldLogger.Http
