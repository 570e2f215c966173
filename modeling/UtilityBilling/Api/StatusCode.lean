/-
# Status codes

An answer carries a status code of three digits. The status line puts the
registered phrase after it, and a fixed remark where there is none.
-/

namespace UtilityBilling.Api

/-- A status code between 100 and 999. -/
structure StatusCode where
  value : UInt16
  inRange : 100 ≤ value ∧ value ≤ 999
  deriving DecidableEq

namespace StatusCode

/-- The status code of a number, if it is one. -/
def ofNat? (n : Nat) : Option StatusCode :=
  if h : 100 ≤ UInt16.ofNat n ∧ UInt16.ofNat n ≤ 999 then
    if n < 1000 then some ⟨UInt16.ofNat n, h⟩ else none
  else none

/-- The code of an answer to a request that went well. -/
def ok : StatusCode := ⟨200, by decide⟩

/-- The code of an answer that asks for a sign-in. -/
def unauthorized : StatusCode := ⟨401, by decide⟩

/-- The code of an answer about something that does not exist. -/
def notFound : StatusCode := ⟨404, by decide⟩

/-- Whether the request went well. -/
def isSuccess (code : StatusCode) : Bool :=
  200 ≤ code.value && code.value ≤ 299

/-- Whether the server itself failed. -/
def isServerError (code : StatusCode) : Bool :=
  500 ≤ code.value && code.value ≤ 599

/-- The registered phrases. -/
def phrases : List (UInt16 × String) :=
  [(100, "Continue"), (101, "Switching Protocols"), (102, "Processing"),
    (103, "Early Hints"), (200, "OK"), (201, "Created"), (202, "Accepted"),
    (203, "Non Authoritative Information"), (204, "No Content"),
    (205, "Reset Content"), (206, "Partial Content"), (207, "Multi-Status"),
    (208, "Already Reported"), (226, "IM Used"), (300, "Multiple Choices"),
    (301, "Moved Permanently"), (302, "Found"), (303, "See Other"),
    (304, "Not Modified"), (305, "Use Proxy"), (307, "Temporary Redirect"),
    (308, "Permanent Redirect"), (400, "Bad Request"), (401, "Unauthorized"),
    (402, "Payment Required"), (403, "Forbidden"), (404, "Not Found"),
    (405, "Method Not Allowed"), (406, "Not Acceptable"),
    (407, "Proxy Authentication Required"), (408, "Request Timeout"),
    (409, "Conflict"), (410, "Gone"), (411, "Length Required"),
    (412, "Precondition Failed"), (413, "Payload Too Large"),
    (414, "URI Too Long"), (415, "Unsupported Media Type"),
    (416, "Range Not Satisfiable"), (417, "Expectation Failed"),
    (418, "I'm a teapot"), (421, "Misdirected Request"),
    (422, "Unprocessable Entity"), (423, "Locked"), (424, "Failed Dependency"),
    (425, "Too Early"), (426, "Upgrade Required"), (428, "Precondition Required"),
    (429, "Too Many Requests"), (431, "Request Header Fields Too Large"),
    (451, "Unavailable For Legal Reasons"), (500, "Internal Server Error"),
    (501, "Not Implemented"), (502, "Bad Gateway"), (503, "Service Unavailable"),
    (504, "Gateway Timeout"), (505, "HTTP Version Not Supported"),
    (506, "Variant Also Negotiates"), (507, "Insufficient Storage"),
    (508, "Loop Detected"), (510, "Not Extended"),
    (511, "Network Authentication Required")]

/-- The status line of a code. -/
def line (code : StatusCode) : String :=
  toString code.value.toNat ++ " " ++
    (phrases.lookup code.value).getD "<unknown status code>"

end StatusCode

end UtilityBilling.Api
