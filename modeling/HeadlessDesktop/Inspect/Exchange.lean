import HeadlessDesktop.Inspect.Endpoint
import HeadlessDesktop.Inspect.Target

/-! Requests and responses as they go over a connection. -/

namespace HeadlessDesktop.Inspect

open Text

inductive RequestError
  | badLine (line : String)
  | badMethod (method : String)
  | badVersion (version : String)
  | badTarget (target : String) (why : TargetError)
deriving DecidableEq, Repr

def RequestError.message : RequestError → String
  | .badLine line => "malformed HTTP request " ++ quoted line
  | .badMethod method => "invalid method " ++ quoted method
  | .badVersion version => "malformed HTTP version " ++ quoted version
  | .badTarget target why => "parse " ++ quoted target ++ ": " ++ why.message

namespace Request

def isMethodChar (c : Char) : Bool :=
  Target.isLetterOrDigit c || "!#$%&'*+-.^_\x60|~".toList.contains c

def isVersion (text : List Char) : Bool :=
  match text with
  | ['H', 'T', 'T', 'P', '/', major, '.', minor] =>
    (digitValue? major).isSome && (digitValue? minor).isSome
  | _ => false

def splitAtSpace? (text : List Char) : Option (List Char × List Char) :=
  match text.dropWhile (· != ' ') with
  | _ :: behind => some (text.takeWhile (· != ' '), behind)
  | [] => none

/-- A connection may be asked for by its authority alone. -/
def fullTarget (method target : String) : String :=
  if method = "CONNECT" && target.toList.head? != some '/' then "http://" ++ target else target

def ofLine (line : List Char) : Except RequestError Request :=
  match splitAtSpace? line with
  | none => .error (.badLine (String.ofList line))
  | some (method, rest) =>
    match splitAtSpace? rest with
    | none => .error (.badLine (String.ofList line))
    | some (target, version) => do
      let method' := String.ofList method
      if method.isEmpty || !method.all isMethodChar then throw (.badMethod method')
      if !isVersion version then throw (.badVersion (String.ofList version))
      let target := fullTarget method' (String.ofList target)
      pure ⟨method', ← (Target.path target).mapError (.badTarget target)⟩

def firstLine (text : List Char) : List Char :=
  let line := text.takeWhile (· != '\n')
  if line.getLast? == some '\r' then line.dropLast else line

/-- Only the first line of a request matters. -/
def ofText (text : String) : Except RequestError Request := ofLine (firstLine text.toList)

def make (method target : String) : Except RequestError Request :=
  ofText ((if method = "" then "GET" else method) ++ " " ++ target ++ " HTTP/1.0\r\n\r\n")

end Request

def statusText : Nat → String
  | 200 => "OK"
  | 204 => "No Content"
  | 400 => "Bad Request"
  | 404 => "Not Found"
  | 405 => "Method Not Allowed"
  | _ => "Internal Server Error"

def headerLine (name value : String) : String :=
  if value = "" then "" else name ++ ": " ++ value ++ "\r\n"

def Response.text (response : Response) : String :=
  "HTTP/1.1 " ++ natText response.status ++ " " ++ statusText response.status ++ "\r\n" ++
    headerLine "Content-Type" response.contentType ++
    headerLine "Allow" response.allow ++
    headerLine "Content-Length" (natText (encodeUtf8 response.body).length) ++
    headerLine "Connection" "close" ++ "\r\n" ++ response.body

end HeadlessDesktop.Inspect
