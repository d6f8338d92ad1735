import HeadlessDesktop.Inspect.Listener
import HeadlessDesktop.Text.Quoted

/-! The target of a request: a path, or a full address of which only the path counts. -/

namespace HeadlessDesktop.Inspect

open Text

inductive TargetError
  | controlCharacter
  | empty
  | missingScheme
  | noPath
  | badEscape (start : Bytes)
  | badHostCharacter (c : Char)
  | badUser
  | badService (text : String)
  | missingBracket
  | badLiteral
  | unknownLiteral (host : String)
deriving DecidableEq, Repr

def TargetError.message : TargetError → String
  | .controlCharacter => "net/url: invalid control character in URL"
  | .empty => "empty url"
  | .missingScheme => "missing protocol scheme"
  | .noPath => "invalid URI for request"
  | .badEscape start => "invalid URL escape " ++ quotedBytes start
  | .badHostCharacter c => "invalid character " ++ quoted c.toString ++ " in host name"
  | .badUser => "net/url: invalid userinfo"
  | .badService text => "invalid port " ++ quoted text ++ " after host"
  | .missingBracket => "missing ']' in host"
  | .badLiteral => "invalid IP-literal"
  | .unknownLiteral host => "invalid host: ParseAddr(" ++ quoted host ++ "): unable to parse IP"

namespace Target

def isControl (c : Char) : Bool := c.toNat < 0x20 || c.toNat == 0x7F

def isLetter (c : Char) : Bool := ('a' ≤ c && c ≤ 'z') || ('A' ≤ c && c ≤ 'Z')

def isLetterOrDigit (c : Char) : Bool := isLetter c || (digitValue? c).isSome

def isHostMark (c : Char) : Bool := "!$&'()*+,;=:[]<>\"-_.~".toList.contains c

def isUserMark (c : Char) : Bool := "-._:~!$&'()*+,;=%@".toList.contains c

def escapeStart (text : List Char) : Bytes := (encodeUtf8 (String.ofList text)).take 3

def checkEscapes : List Char → Except TargetError Unit
  | [] => .ok ()
  | '%' :: a :: b :: rest =>
    if (hexValue? a).isSome && (hexValue? b).isSome then checkEscapes rest
    else .error (.badEscape (escapeStart ('%' :: a :: b :: rest)))
  | c :: rest =>
    if c == '%' then .error (.badEscape (escapeStart (c :: rest))) else checkEscapes rest

/-- In a host only what lies beyond the first 128 characters is escaped, and the percent sign
itself. -/
def checkHostText : List Char → Except TargetError Unit
  | [] => .ok ()
  | '%' :: a :: b :: rest =>
    match hexValue? a, hexValue? b with
    | some high, some low =>
      if high < 8 && !(high == 2 && low == 5) then .error (.badEscape (escapeStart ['%', a, b]))
      else checkHostText rest
    | _, _ => .error (.badEscape (escapeStart ('%' :: a :: b :: rest)))
  | c :: rest =>
    if c == '%' then .error (.badEscape (escapeStart (c :: rest)))
    else if c.toNat < 0x80 && !isLetterOrDigit c && !isHostMark c then
      .error (.badHostCharacter c)
    else checkHostText rest

def checkService (text : List Char) : Except TargetError Unit :=
  match text with
  | [] => .ok ()
  | c :: digits =>
    if c == ':' && digits.all fun d => (digitValue? d).isSome then .ok ()
    else .error (.badService (String.ofList text))

def splitAtLast? (c : Char) (text : List Char) : Option (List Char × List Char) :=
  let behind := (text.reverse.takeWhile (· != c)).length
  if behind = text.length then none
  else some (text.take (text.length - behind - 1), text.drop (text.length - behind - 1))

def checkLiteral (host : List Char) : Except TargetError Unit := do
  match splitAtLast? ']' host with
  | none => throw .missingBracket
  | some (front, behind) =>
    checkService (behind.drop 1)
    let inside := front.drop 1
    checkHostText inside
    let name := String.ofList inside
    if isAddressNumber name then throw .badLiteral
    if !inside.contains ':' then throw (.unknownLiteral name)

def checkHost (host : List Char) : Except TargetError Unit := do
  match splitAtLast? '[' host with
  | some ([], _) => checkLiteral host
  | some _ => throw .badLiteral
  | none =>
    match splitAtLast? ':' host with
    | some (_, service) => checkService service
    | none => pure ()
    checkHostText host

def checkUser (user : List Char) : Except TargetError Unit := do
  if !user.all fun c => isLetterOrDigit c || isUserMark c then throw .badUser
  let name := user.takeWhile (· != ':')
  checkEscapes name
  checkEscapes (user.drop (name.length + 1))

/-- The host is looked at before the user in front of it. -/
def checkAuthority (authority : List Char) : Except TargetError Unit :=
  match splitAtLast? '@' authority with
  | none => checkHost authority
  | some (user, host) => do
    checkHost (host.drop 1)
    checkUser user

def splitScheme (text : List Char) : Except TargetError (Bool × List Char) :=
  match text with
  | [] => .ok (false, text)
  | c :: _ =>
    if c == ':' then .error .missingScheme
    else if !isLetter c then .ok (false, text)
    else
      let scheme := text.takeWhile fun c => isLetterOrDigit c || "+-.".toList.contains c
      match text.drop scheme.length with
      | ':' :: rest => .ok (true, rest)
      | _ => .ok (false, text)

def checkedPath (path : List Char) : Except TargetError String := do
  checkEscapes path
  pure (String.ofList path)

/-- The path that a target names. What stands behind a question mark does not count; a full
address may have no path. -/
def path (target : String) : Except TargetError String := do
  let text := target.toList
  if text.any isControl then throw .controlCharacter
  if text.isEmpty then throw .empty
  if text = ['*'] then return target
  let (full, rest) ← splitScheme text
  let rest := rest.takeWhile (· != '?')
  match full, rest with
  | true, '/' :: '/' :: behind =>
    let authority := behind.takeWhile (· != '/')
    checkAuthority authority
    checkedPath (behind.drop authority.length)
  | _, '/' :: _ => checkedPath rest
  | true, _ => return ""
  | false, _ => throw .noPath

end Target

end HeadlessDesktop.Inspect
