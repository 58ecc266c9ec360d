import Paydesk.Address.Request

/-!
# Exchanges with other servers

How a request to another server can end, what is said of one that no server took, and how status
codes are named.
-/

namespace Paydesk

/-- The end of a request to another server. -/
inductive Exchange where
  | answered (status : Nat) (body : String)
  | timedOut
  | failed (text : String)

namespace Exchange

/-- The end of a request that cannot be made out of what was given. -/
def unbuilt : Exchange := .failed "builder error"

/-- The end of a request to an address at which no server answers. Of a request that cannot be made
the address is told, unless it has none or only its headers are at fault. -/
def unreached (url : String) (headersFit : Bool) : Exchange :=
  match Address.read? url with
  | none => unbuilt
  | some address =>
    let shown := " for url (" ++ address.requested.toText ++ ")"
    if !address.hasHost then .failed ("builder error" ++ shown)
    else if !headersFit then unbuilt
    else if address.isAskable then .failed ("error sending request" ++ shown)
    else .failed ("builder error" ++ shown)

/-- The codes of success. -/
def isSuccess (status : Nat) : Bool :=
  200 ≤ status && status < 300

/-- The registered names of status codes. -/
def reasons : List (Nat × String) :=
  [(100, "Continue"), (101, "Switching Protocols"), (102, "Processing"), (200, "OK"),
    (201, "Created"), (202, "Accepted"), (203, "Non Authoritative Information"),
    (204, "No Content"), (205, "Reset Content"), (206, "Partial Content"), (207, "Multi-Status"),
    (208, "Already Reported"), (226, "IM Used"), (300, "Multiple Choices"),
    (301, "Moved Permanently"), (302, "Found"), (303, "See Other"), (304, "Not Modified"),
    (305, "Use Proxy"), (307, "Temporary Redirect"), (308, "Permanent Redirect"),
    (400, "Bad Request"), (401, "Unauthorized"), (402, "Payment Required"), (403, "Forbidden"),
    (404, "Not Found"), (405, "Method Not Allowed"), (406, "Not Acceptable"),
    (407, "Proxy Authentication Required"), (408, "Request Timeout"), (409, "Conflict"),
    (410, "Gone"), (411, "Length Required"), (412, "Precondition Failed"),
    (413, "Payload Too Large"), (414, "URI Too Long"), (415, "Unsupported Media Type"),
    (416, "Range Not Satisfiable"), (417, "Expectation Failed"), (418, "I'm a teapot"),
    (421, "Misdirected Request"), (422, "Unprocessable Entity"), (423, "Locked"),
    (424, "Failed Dependency"), (425, "Too Early"), (426, "Upgrade Required"),
    (428, "Precondition Required"), (429, "Too Many Requests"),
    (431, "Request Header Fields Too Large"), (451, "Unavailable For Legal Reasons"),
    (500, "Internal Server Error"), (501, "Not Implemented"), (502, "Bad Gateway"),
    (503, "Service Unavailable"), (504, "Gateway Timeout"), (505, "HTTP Version Not Supported"),
    (506, "Variant Also Negotiates"), (507, "Insufficient Storage"), (508, "Loop Detected"),
    (510, "Not Extended"), (511, "Network Authentication Required")]

/-- A status code with its name. -/
def statusText (status : Nat) : String :=
  Text.natText status ++ " " ++ (reasons.lookup status).getD "<unknown status code>"

end Exchange

end Paydesk
