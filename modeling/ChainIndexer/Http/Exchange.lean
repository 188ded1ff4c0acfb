import ChainIndexer.Bytes.Utf8
import ChainIndexer.Chain
import ChainIndexer.Http.Url
import ChainIndexer.Text.Blank
import ChainIndexer.Text.Clip

/-! Exchanges with a web server: what is requested and what comes back. -/
namespace ChainIndexer.Http

structure Request where
  url : Url
  /-- The height at which an application server answers. -/
  height : Option Height := none
  deriving DecidableEq, Repr

structure Response where
  status : Nat
  body : Bytes
  deriving DecidableEq, Repr

def reason? (status : Nat) : Option String :=
  [(100, "Continue"), (101, "Switching Protocols"), (102, "Processing"), (200, "OK"),
   (201, "Created"), (202, "Accepted"), (203, "Non Authoritative Information"),
   (204, "No Content"), (205, "Reset Content"), (206, "Partial Content"), (207, "Multi-Status"),
   (208, "Already Reported"), (226, "IM Used"), (300, "Multiple Choices"),
   (301, "Moved Permanently"), (302, "Found"), (303, "See Other"), (304, "Not Modified"),
   (305, "Use Proxy"), (307, "Temporary Redirect"), (308, "Permanent Redirect"),
   (400, "Bad Request"), (401, "Unauthorized"), (402, "Payment Required"), (403, "Forbidden"),
   (404, "Not Found"), (405, "Method Not Allowed"), (406, "Not Acceptable"),
   (407, "Proxy Authentication Required"), (408, "Request Timeout"), (409, "Conflict"),
   (410, "Gone"), (411, "Length Required"), (412, "Precondition Failed"),
   (413, "Payload Too Large"), (414, "URI Too Long"), (415, "Unsupported Media Type"),
   (416, "Range Not Satisfiable"), (417, "Expectation Failed"), (418, "I'm a teapot"),
   (421, "Misdirected Request"), (422, "Unprocessable Entity"), (423, "Locked"),
   (424, "Failed Dependency"), (426, "Upgrade Required"), (428, "Precondition Required"),
   (429, "Too Many Requests"), (431, "Request Header Fields Too Large"),
   (451, "Unavailable For Legal Reasons"), (500, "Internal Server Error"),
   (501, "Not Implemented"), (502, "Bad Gateway"), (503, "Service Unavailable"),
   (504, "Gateway Timeout"), (505, "HTTP Version Not Supported"),
   (506, "Variant Also Negotiates"), (507, "Insufficient Storage"), (508, "Loop Detected"),
   (510, "Not Extended"), (511, "Network Authentication Required")].lookup status

def statusText (status : Nat) : String :=
  toString status ++ " " ++ (reason? status).getD "<unknown status code>"

namespace Response

def isSuccess (r : Response) : Bool := 200 ≤ r.status && r.status < 300

def text (r : Response) : String := Utf8.decodeLenient r.body

/-- Whether the body looks like a JSON object, which an RPC server sends with a failing status
too. -/
def looksLikeObject (r : Response) : Bool := (Text.trimFront r.text.toList).head? == some '{'

/-- Bytes of a body that a fault quotes. -/
def quotedLimit : Nat := 256

/-- The fault of an answer that is neither a success nor an object. It names the address as it was
given. -/
def refusal (r : Response) (address : String) : Fault :=
  .because .nodeFault
    (address ++ " returned " ++ statusText r.status ++ ": " ++ Text.clip quotedLimit r.text)

end Response
end ChainIndexer.Http
