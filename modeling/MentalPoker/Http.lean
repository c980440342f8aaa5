import MentalPoker.Failure

/-!
# Requests and replies

What the library needs of HTTP: the requests that it makes, the replies that come, and the phrases
that go with status codes.
-/

namespace MentalPoker

/-- A request. -/
structure Request where
  method : Text
  path : Text
  query : List (Text × Text)
  deriving DecidableEq, Repr

/-- The path of a request with its query. -/
def Request.target (r : Request) : Text :=
  let arguments := r.query.map fun (name, value) => name ++ 0x3D :: value
  if arguments.isEmpty then r.path else r.path ++ 0x3F :: Text.join [0x26] arguments

/-- What comes of a request. -/
inductive Reply where
  /-- There is no answer. -/
  | failed (message : Text)
  /-- The request could not even be made. -/
  | broken (failure : Failure)
  | answered (status : Nat) (body : Bytes)

namespace Status

/-- The phrases of the status codes that have one. -/
def phrases : List (Nat × String) :=
  [(100, "Continue"), (101, "Switching Protocols"), (102, "Processing"), (103, "Early Hints"),
    (200, "OK"), (201, "Created"), (202, "Accepted"), (203, "Non-Authoritative Information"),
    (204, "No Content"), (205, "Reset Content"), (206, "Partial Content"), (207, "Multi-Status"),
    (208, "Already Reported"), (226, "IM Used"),
    (300, "Multiple Choices"), (301, "Moved Permanently"), (302, "Found"), (303, "See Other"),
    (304, "Not Modified"), (305, "Use Proxy"), (307, "Temporary Redirect"),
    (308, "Permanent Redirect"),
    (400, "Bad Request"), (401, "Unauthorized"), (402, "Payment Required"), (403, "Forbidden"),
    (404, "Not Found"), (405, "Method Not Allowed"), (406, "Not Acceptable"),
    (407, "Proxy Authentication Required"), (408, "Request Timeout"), (409, "Conflict"),
    (410, "Gone"), (411, "Length Required"), (412, "Precondition Failed"),
    (413, "Request Entity Too Large"), (414, "Request-URI Too Long"),
    (415, "Unsupported Media Type"), (416, "Requested Range Not Satisfiable"),
    (417, "Expectation Failed"), (418, "I'm a teapot"), (421, "Misdirected Request"),
    (422, "Unprocessable Entity"), (423, "Locked"), (424, "Failed Dependency"),
    (425, "Too Early"), (426, "Upgrade Required"), (428, "Precondition Required"),
    (429, "Too Many Requests"), (431, "Request Header Fields Too Large"),
    (451, "Unavailable For Legal Reasons"),
    (500, "Internal Server Error"), (501, "Not Implemented"), (502, "Bad Gateway"),
    (503, "Service Unavailable"), (504, "Gateway Timeout"), (505, "HTTP Version Not Supported"),
    (506, "Variant Also Negotiates"), (507, "Insufficient Storage"), (508, "Loop Detected"),
    (510, "Not Extended"), (511, "Network Authentication Required")]

/-- The phrase of a status code; unknown codes have none. A server may send a phrase of its own, but
a reply carries the code alone. -/
def phrase (code : Nat) : Text := ((Table.get? code phrases).map text).getD []

/-- Codes from 400 to 599 report errors. -/
def isError (code : Nat) : Bool := 400 ≤ code && code ≤ 599

/-- Codes from 200 to 299 report success. -/
def isSuccess (code : Nat) : Bool := 200 ≤ code && code ≤ 299

end Status

end MentalPoker
