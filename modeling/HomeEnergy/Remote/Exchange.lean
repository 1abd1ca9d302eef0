import HomeEnergy.Failure
import HomeEnergy.Json.Reader
import HomeEnergy.Text.Utf8

/-!
# `HomeEnergy.Remote.Exchange`: requests and replies

A request goes through a `Transport`, which gives a reply or none. A reply is good when its
status is from 200 to 299. Its body is any row of bytes; one that is not what was expected counts
as no reply.
-/

set_option autoImplicit false

namespace HomeEnergy.Remote

/-- What is sent. -/
structure Request where
  method : String
  target : String
  authorization : Option String
  body : Option Json

/-- What comes back. The body need not be text. -/
structure Reply where
  status : Nat
  body : List UInt8
  deriving DecidableEq, Repr

/-- A way to a server. -/
abbrev Transport (σ : Type) := Request → StateM σ (Option Reply)

/-- The phrases that go with the statuses. -/
def phrases : List (Nat × String) :=
  [(100, "Continue"), (101, "Switching Protocols"), (102, "Processing"), (200, "OK"),
    (201, "Created"), (202, "Accepted"), (203, "Non Authoritative Information"),
    (204, "No Content"), (205, "Reset Content"), (206, "Partial Content"), (207, "Multi-Status"),
    (208, "Already Reported"), (226, "IM Used"), (300, "Multiple Choices"),
    (301, "Moved Permanently"), (302, "Found"), (303, "See Other"), (304, "Not Modified"),
    (305, "Use Proxy"), (307, "Temporary Redirect"), (308, "Permanent Redirect"),
    (400, "Bad Request"), (401, "Unauthorized"), (402, "Payment Required"), (403, "Forbidden"),
    (404, "Not Found"), (405, "Method Not Allowed"), (406, "Not Acceptable"),
    (407, "Proxy Authentication Required"), (408, "Request Timeout"), (409, "Conflict"),
    (410, "Gone"), (411, "Length Required"), (412, "Precondition Failed"),
    (413, "Payload Too Large"), (414, "URI Too Long"), (415, "Unsupported Media Type"),
    (416, "Range Not Satisfiable"), (417, "Expectation Failed"), (418, "I'm a teapot"),
    (421, "Misdirected Request"), (422, "Unprocessable Entity"), (423, "Locked"),
    (424, "Failed Dependency"), (425, "Too Early"), (426, "Upgrade Required"),
    (428, "Precondition Required"), (429, "Too Many Requests"),
    (431, "Request Header Fields Too Large"), (451, "Unavailable For Legal Reasons"),
    (500, "Internal Server Error"), (501, "Not Implemented"), (502, "Bad Gateway"),
    (503, "Service Unavailable"), (504, "Gateway Timeout"), (505, "HTTP Version Not Supported"),
    (506, "Variant Also Negotiates"), (507, "Insufficient Storage"), (508, "Loop Detected"),
    (510, "Not Extended"), (511, "Network Authentication Required")]

/-- A status with its phrase. -/
def statusText (status : Nat) : String :=
  toString status ++ " " ++ (phrases.lookup status).getD "<unknown status code>"

namespace Reply

/-- A good reply. -/
def isGood (r : Reply) : Bool := 200 ≤ r.status && r.status ≤ 299

/-- A reply whose body is a text. -/
def ofText (status : Nat) (text : String) : Reply := ⟨status, text.toUTF8.toList⟩

/-- The body as text. -/
def text (r : Reply) : String := Text.Utf8.decode r.body

/-- The body as JSON in dictionary form. -/
def settled? (r : Reply) : Option Json := (Json.ofBytes? r.body).map Json.settled

end Reply

end HomeEnergy.Remote
