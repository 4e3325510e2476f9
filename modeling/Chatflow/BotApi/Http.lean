import Chatflow.Json.Basic
import Chatflow.Program
import Chatflow.Text.Occurrence

/-!
# Exchanges over HTTP

Posting a JSON value to an address, and what can come of it.  The exchange is a call, and whether an
address can be posted to is a part of the answer to it.
-/

namespace Chatflow.Http

/-! ## Exchanges -/

structure Post where
  url : String
  body : Json
deriving DecidableEq

structure Reply where
  status : Nat
  body : String
deriving DecidableEq, Repr

inductive Failure where
  | badAddress
  | noReply
deriving DecidableEq, Repr

def Failure.message : Failure → String
  | badAddress => "builder error"
  | noReply => "error sending request"

abbrev Exchange := Program Post fun _ => Except Failure Reply

def post (request : Post) : Exchange (Except Failure Reply) := Program.ask request

/-! ## Addresses -/

def isHostChar (c : Char) : Bool :=
  c.isAlphanum || "!$&'()*+,-.;=_~".toList.contains c || 0x80 ≤ c.toNat

def isAuthority (authority : List Char) : Bool :=
  let (host, service) :=
    match authority with
    | '[' :: rest => (rest.takeWhile (· != ']'), (rest.dropWhile (· != ']')).drop 1)
    | rest => (rest.takeWhile (· != ':'), rest.dropWhile (· != ':'))
  let hostOk :=
    !host.isEmpty && host.all fun c => isHostChar c || (authority.head? == some '[' && c == ':')
  let serviceOk :=
    match service with
    | [] => true
    | ':' :: digits =>
      digits.all Char.isDigit &&
        digits.foldl (fun value c => value * 10 + (c.toNat - '0'.toNat)) 0 < 65536
    | _ => false
  hostOk && serviceOk

def isPadding (c : Char) : Bool := c.toNat ≤ 0x20

def isSkipped (c : Char) : Bool := c == '\t' || c == '\n' || c == '\r'

/-- Whether a text looks like an absolute address that can be posted to.  A host is told by its
characters alone, so this says nothing about hosts that are numbers or have encoded characters. -/
def isAddress (url : String) : Bool :=
  let cs := (url.toList.dropWhile isPadding).filter fun c => !isSkipped c
  let scheme := cs.takeWhile (· != ':')
  let rest := (cs.dropWhile (· != ':')).drop 1
  let afterSlashes := rest.dropWhile fun c => c == '/' || c == '\\'
  let place := afterSlashes.takeWhile fun c => !(c == '/' || c == '\\' || c == '?' || c == '#')
  let authority :=
    match Text.splitChars '@' place with
    | [] => []
    | parts => parts.getLast?.getD []
  let name := scheme.map Char.toLower
  (name == "http".toList || name == "https".toList) && cs.contains ':' && isAuthority authority

/-- What becomes of a post on a machine without a network. -/
def unanswered (request : Post) : Except Failure Reply :=
  .error (if isAddress request.url then .noReply else .badAddress)

/-! ## Status codes -/

def reasons : List (Nat × String) :=
  [(100, "Continue"), (101, "Switching Protocols"), (102, "Processing"), (103, "Early Hints"),
   (200, "OK"), (201, "Created"), (202, "Accepted"), (203, "Non Authoritative Information"),
   (204, "No Content"), (205, "Reset Content"), (206, "Partial Content"), (207, "Multi-Status"),
   (208, "Already Reported"), (226, "IM Used"), (300, "Multiple Choices"),
   (301, "Moved Permanently"), (302, "Found"), (303, "See Other"), (304, "Not Modified"),
   (305, "Use Proxy"), (307, "Temporary Redirect"), (308, "Permanent Redirect"),
   (400, "Bad Request"), (401, "Unauthorized"), (402, "Payment Required"), (403, "Forbidden"),
   (404, "Not Found"), (405, "Method Not Allowed"), (406, "Not Acceptable"),
   (407, "Proxy Authentication Required"), (408, "Request Timeout"), (409, "Conflict"),
   (410, "Gone"), (411, "Length Required"), (412, "Precondition Failed"),
   (413, "Payload Too Large"), (414, "URI Too Long"), (415, "Unsupported Media Type"),
   (416, "Range Not Satisfiable"), (417, "Expectation Failed"), (418, "I'm a teapot"),
   (421, "Misdirected Request"), (422, "Unprocessable Entity"), (423, "Locked"),
   (424, "Failed Dependency"), (425, "Too Early"), (426, "Upgrade Required"),
   (428, "Precondition Required"), (429, "Too Many Requests"),
   (431, "Request Header Fields Too Large"), (451, "Unavailable For Legal Reasons"),
   (500, "Internal Server Error"), (501, "Not Implemented"), (502, "Bad Gateway"),
   (503, "Service Unavailable"), (504, "Gateway Timeout"), (505, "HTTP Version Not Supported"),
   (506, "Variant Also Negotiates"), (507, "Insufficient Storage"), (508, "Loop Detected"),
   (510, "Not Extended"), (511, "Network Authentication Required")]

def statusText (status : Nat) : String :=
  toString status ++ " " ++ (reasons.lookup status).getD "<unknown status code>"

end Chatflow.Http
