import HeadlessDesktop.Text.Numeral
import HeadlessDesktop.Text.Split

/-! Addresses to listen on. -/

namespace HeadlessDesktop.Inspect

open Text

inductive ListenError
  | missingService (address : String)
  | tooManyColons (address : String)
  | missingBracket (address : String)
  | strayBracket (bracket : Char) (address : String)
  | invalidService (service : String)
  | unknownService (service : String)
  | unknownHost (host : String)
  | refused (address reason : String)
deriving DecidableEq, Repr

def ListenError.message (error : ListenError) : String :=
  "inspect listen: listen tcp" ++ match error with
    | .missingService address => ": address " ++ address ++ ": missing port in address"
    | .tooManyColons address => ": address " ++ address ++ ": too many colons in address"
    | .missingBracket address => ": address " ++ address ++ ": missing ']' in address"
    | .strayBracket bracket address =>
      ": address " ++ address ++ ": unexpected '" ++ bracket.toString ++ "' in address"
    | .invalidService service => ": address " ++ service ++ ": invalid port"
    | .unknownService service => ": lookup tcp/" ++ service ++ ": unknown port"
    | .unknownHost host => ": lookup " ++ host ++ ": no such host"
    | .refused address reason => " " ++ address ++ ": bind: " ++ reason

def splitAtLastColon? (text : List Char) : Option (List Char × List Char) :=
  let behind := text.reverse.takeWhile (· != ':')
  if behind.length = text.length then none
  else some (text.take (text.length - behind.length - 1), behind.reverse)

/-- Host and service of an address. A host that holds colons stands in brackets. -/
def splitAddress (address : String) : Except ListenError (String × String) := do
  let text := address.toList
  match splitAtLastColon? text with
  | none => throw (.missingService address)
  | some (front, service) =>
    let (host, opened, closed) ←
      match front with
      | '[' :: _ =>
        let inside := (text.drop 1).takeWhile (· != ']')
        let behind := text.drop (inside.length + 2)
        if inside.length + 1 = text.length then throw (.missingBracket address)
        else if inside.length + 2 = front.length then pure (inside, text.drop 1, behind)
        else if behind.head? == some ':' then throw (.tooManyColons address)
        else throw (.missingService address)
      | _ =>
        if front.contains ':' then throw (.tooManyColons address)
        else pure (front, text, text)
    if opened.contains '[' then throw (.strayBracket '[' address)
    if closed.contains ']' then throw (.strayBracket ']' address)
    pure (String.ofList host, String.ofList service)

def serviceCutoff : UInt32 := 0x40000000

/-- The value of digits in a word of 32 bits, which wraps; none if there is another character.
Behind a number that is too large nothing is looked at. -/
def serviceValue? (value : UInt32) : List Char → Option UInt32
  | [] => some value
  | c :: rest => do
    let digit ← digitValue? c
    if serviceCutoff ≤ value then some 0xFFFFFFFF
    else
      let shifted := value * 10
      let next := shifted + UInt32.ofNat digit
      if next < shifted then some 0xFFFFFFFF else serviceValue? next rest

def namedServices : List (String × Nat) :=
  [("ftp", 21), ("ftps", 990), ("gopher", 70), ("http", 80), ("https", 443), ("imap2", 143),
    ("imap3", 220), ("imaps", 993), ("pop3", 110), ("pop3s", 995), ("smtp", 25),
    ("submissions", 465), ("ssh", 22), ("telnet", 23)]

def serviceNumber (service : String) : Except ListenError Nat :=
  let (negative, digits) := match service.toList with
    | '-' :: rest => (true, rest)
    | '+' :: rest => (false, rest)
    | text => (false, text)
  match serviceValue? 0 digits with
  | none =>
    match namedServices.lookup (String.ofList (service.toList.map Char.toLower)) with
    | some number => .ok number
    | none => .error (.unknownService service)
  | some value =>
    if 65535 < value.toNat || (negative && value ≠ 0) then .error (.invalidService service)
    else .ok value.toNat

def isAddressNumber (host : String) : Bool :=
  let parts := splitAtChar '.' host.toList
  parts.length == 4 && parts.all fun part =>
    (part.length == 1 || part.head? != some '0') &&
      part.all (fun c => (digitValue? c).isSome) && (numeral? 10 part).any (· < 256)

def isLocal (host : String) : Bool :=
  host = "::" || host = "::1" || (splitAtChar '.' host.toList).head? == some "127".toList

def resolveAddress (address : String) : Except ListenError (String × Nat) := do
  let (host, service) ← splitAddress address
  let service ← serviceNumber service
  if host = "" || host = "::" || host = "0.0.0.0" then pure ("::", service)
  else if host = "localhost" then pure ("127.0.0.1", service)
  else if host = "::1" || isAddressNumber host then pure (host, service)
  else throw (.unknownHost host)

def addressText (host : String) (service : Nat) : String :=
  (if host.toList.contains ':' then "[" ++ host ++ "]" else host) ++ ":" ++ natText service

/-- The address that a listener is bound to. Zero stands for any number that is free. Nobody
can listen for another machine. -/
def bind (address : String) (freeNumber : Nat) : Except ListenError String := do
  let (host, service) ← resolveAddress address
  if !isLocal host then
    throw (.refused (addressText host service) "cannot assign requested address")
  pure (addressText host (if service = 0 then freeNumber else service))

structure Server where
  bound : Option String := none
deriving DecidableEq, Repr

namespace Server

def start (server : Server) (address : String) (freeNumber : Nat) :
    Except ListenError (Server × String) :=
  match server.bound with
  | some bound => .ok (server, bound)
  | none => do
    let bound ← bind address freeNumber
    pure (⟨some bound⟩, bound)

def stop (_ : Server) : Server := {}

end Server

end HeadlessDesktop.Inspect
