import Bindery.Network.Response

/-!
# Statuses that mean failure
-/
namespace Bindery.Network

/-- The standard phrases for statuses other than success. -/
def statusPhrases : List (Nat × String) := [
  (100, "Continue"), (101, "Switching Protocols"), (102, "Processing"), (103, "Early Hints"),
  (300, "Multiple Choices"), (301, "Moved Permanently"), (302, "Found"), (303, "See Other"),
  (304, "Not Modified"), (305, "Use Proxy"), (307, "Temporary Redirect"),
  (308, "Permanent Redirect"), (400, "Bad Request"), (401, "Unauthorized"),
  (402, "Payment Required"), (403, "Forbidden"), (404, "Not Found"), (405, "Method Not Allowed"),
  (406, "Not Acceptable"), (407, "Proxy Authentication Required"), (408, "Request Timeout"),
  (409, "Conflict"), (410, "Gone"), (411, "Length Required"), (412, "Precondition Failed"),
  (413, "Request Entity Too Large"), (414, "Request-URI Too Long"),
  (415, "Unsupported Media Type"), (416, "Requested Range Not Satisfiable"),
  (417, "Expectation Failed"), (418, "I'm a teapot"), (421, "Misdirected Request"),
  (422, "Unprocessable Entity"), (423, "Locked"), (424, "Failed Dependency"), (425, "Too Early"),
  (426, "Upgrade Required"), (428, "Precondition Required"), (429, "Too Many Requests"),
  (431, "Request Header Fields Too Large"), (451, "Unavailable For Legal Reasons"),
  (500, "Internal Server Error"), (501, "Not Implemented"), (502, "Bad Gateway"),
  (503, "Service Unavailable"), (504, "Gateway Timeout"), (505, "HTTP Version Not Supported"),
  (506, "Variant Also Negotiates"), (507, "Insufficient Storage"), (508, "Loop Detected"),
  (510, "Not Extended"), (511, "Network Authentication Required")]

/-- The phrase for a status; other statuses have an empty one. -/
def statusPhrase (status : Nat) : String := (statusPhrases.lookup status).getD ""

/-- What the hundreds of a status say. -/
def statusKind (status : Nat) : String :=
  match status / 100 with
  | 1 => "Informational response"
  | 3 => "Redirect response"
  | 4 => "Client error"
  | 5 => "Server error"
  | _ => "Invalid status code"

def redirectStatuses : List Nat := [301, 302, 303, 307, 308]

namespace Response

def redirectTarget? (response : Response) : Option String :=
  if redirectStatuses.contains response.status then response.headers.get? "location" else none

/-- What is said of a response that is no success. -/
def statusMessage (response : Response) (url : String) : String :=
  let status := toString response.status
  let target := match response.redirectTarget? with
    | some place => "\nRedirect location: '" ++ place ++ "'"
    | none => ""
  statusKind response.status ++ " '" ++ status ++ " " ++ statusPhrase response.status ++
    "' for url '" ++ url ++ "'" ++ target ++
    "\nFor more information check: https://developer.mozilla.org/en-US/docs/Web/HTTP/Status/" ++ status

end Response

end Bindery.Network
