-- SUMMARY: Request headers and response statuses.
import TypedQuery.Error

/-!
# Headers and statuses

Which names and values a request header can have, and the usual phrases for response statuses.
-/
namespace TypedQuery

/-- Names consist of ASCII letters, digits and some marks. -/
def isHeaderNameChar (c : Char) : Bool :=
  c.isAlphanum || c ∈ "!#$%&'*+-.^_\x60|~".toList

def isHeaderName (name : String) : Bool :=
  !name.isEmpty && name.toList.all isHeaderNameChar

/-- Values hold no control characters except tabs. -/
def isHeaderValue (value : String) : Bool :=
  value.toList.all fun c => c = '\t' || (0x20 ≤ c.toNat && c.toNat ≠ 0x7f)

/-- Put a header into the place of one of the same name. -/
def putHeader : List (String × String) → String × String → List (String × String)
  | [], header => [header]
  | first :: rest, header =>
    if first.1 = header.1 then header :: rest else first :: putHeader rest header

/-- The headers of a request. Names are in lower case, and of one name the last value counts. -/
def requestHeaders (given : List (String × String)) : Except Error (List (String × String)) :=
  given.foldlM
    (fun headers (name, value) =>
      if !isHeaderName name then .error (.settings (.headerName name))
      else if !isHeaderValue value then .error (.settings (.headerValue name))
      else .ok (putHeader headers (name.map Char.toLower, value)))
    []

/-- The statuses with their phrases. -/
def statusPhrases : List (Nat × String) := [
  (100, "Continue"), (101, "Switching Protocols"), (102, "Processing"), (200, "OK"),
  (201, "Created"), (202, "Accepted"), (203, "Non Authoritative Information"), (204, "No Content"),
  (205, "Reset Content"), (206, "Partial Content"), (207, "Multi-Status"),
  (208, "Already Reported"), (226, "IM Used"), (300, "Multiple Choices"),
  (301, "Moved Permanently"), (302, "Found"), (303, "See Other"), (304, "Not Modified"),
  (305, "Use Proxy"), (307, "Temporary Redirect"), (308, "Permanent Redirect"),
  (400, "Bad Request"), (401, "Unauthorized"), (402, "Payment Required"), (403, "Forbidden"),
  (404, "Not Found"), (405, "Method Not Allowed"), (406, "Not Acceptable"),
  (407, "Proxy Authentication Required"), (408, "Request Timeout"), (409, "Conflict"), (410, "Gone"),
  (411, "Length Required"), (412, "Precondition Failed"), (413, "Payload Too Large"),
  (414, "URI Too Long"), (415, "Unsupported Media Type"), (416, "Range Not Satisfiable"),
  (417, "Expectation Failed"), (418, "I'm a teapot"), (421, "Misdirected Request"),
  (422, "Unprocessable Entity"), (423, "Locked"), (424, "Failed Dependency"), (425, "Too Early"),
  (426, "Upgrade Required"), (428, "Precondition Required"), (429, "Too Many Requests"),
  (431, "Request Header Fields Too Large"), (451, "Unavailable For Legal Reasons"),
  (500, "Internal Server Error"), (501, "Not Implemented"), (502, "Bad Gateway"),
  (503, "Service Unavailable"), (504, "Gateway Timeout"), (505, "HTTP Version Not Supported"),
  (506, "Variant Also Negotiates"), (507, "Insufficient Storage"), (508, "Loop Detected"),
  (510, "Not Extended"), (511, "Network Authentication Required")]

/-- The phrase of a status. -/
def statusPhrase (status : Nat) : String :=
  (statusPhrases.lookup status).getD "<unknown status code>"

/-- The request was answered as asked. -/
def isSuccess (status : Nat) : Bool := 200 ≤ status && status < 300

/-- The answer has a body. -/
def hasBody (status : Nat) : Bool := status ≠ 204 && status ≠ 304

end TypedQuery
