import HeadlessDesktop.Text.Scan
import HeadlessDesktop.Text.Split

/-! Semantic versions: `v1`, `v1.2`, `v1.2.3-rc.1+build`. -/

namespace HeadlessDesktop

open Text

/-- Parts that are left out are zero. The identifiers of a pre-release and of a build are
kept as they stand. -/
structure Version where
  major : Nat
  minor : Nat := 0
  patch : Nat := 0
  prerelease : List (List Char) := []
  build : List (List Char) := []
deriving DecidableEq, Repr

namespace Version

def number? (text : List Char) : Option (Nat × List Char) :=
  let (digits, rest) := Scan.digitRun text
  if digits.length > 1 && digits.head? == some '0' then none
  else (numeral? 10 digits).map (·, rest)

def isNumeric (identifier : List Char) : Bool :=
  identifier.all fun c => (digitValue? c).isSome

def isIdentifierChar (c : Char) : Bool :=
  (digitValue? c).isSome || ('a' ≤ c && c ≤ 'z') || ('A' ≤ c && c ≤ 'Z') || c == '-'

def isIdentifier (identifier : List Char) : Bool :=
  !identifier.isEmpty && identifier.all isIdentifierChar

def isPrereleaseIdentifier (identifier : List Char) : Bool :=
  isIdentifier identifier &&
    !(isNumeric identifier && identifier.length > 1 && identifier.head? == some '0')

def identifiers? (accepts : List Char → Bool) (text : List Char) : Option (List (List Char)) :=
  let identifiers := splitAtChar '.' text
  if identifiers.all accepts then some identifiers else none

def part? (lead : Char) (accepts : List Char → Bool) : List Char → Option (List (List Char))
  | [] => some []
  | c :: rest => if c == lead then identifiers? accepts rest else none

/-- What may follow the three numbers: a pre-release, and from the first plus on a build. -/
def suffix? (version : Version) (text : List Char) : Option Version := do
  let prerelease ← part? '-' isPrereleaseIdentifier (text.takeWhile (· != '+'))
  let build ← part? '+' isIdentifier (text.dropWhile (· != '+'))
  pure { version with prerelease, build }

/-- Minor and patch may be left out, and then nothing may follow. -/
def parse? (text : String) : Option Version := do
  let rest ← Scan.mark 'v' text.toList
  let (major, rest) ← number? rest
  if rest.isEmpty then return { major }
  let (minor, rest) ← number? (← Scan.mark '.' rest)
  if rest.isEmpty then return { major, minor }
  let (patch, rest) ← number? (← Scan.mark '.' rest)
  suffix? { major, minor, patch } rest

def compareIdentifiers (a b : List Char) : Ordering :=
  match isNumeric a, isNumeric b with
  | true, true => compare ((numeral? 10 a).getD 0) ((numeral? 10 b).getD 0)
  | true, false => .lt
  | false, true => .gt
  | false, false => compareOfLessAndEq a b

def compareLists : List (List Char) → List (List Char) → Ordering
  | [], [] => .eq
  | [], _ :: _ => .lt
  | _ :: _, [] => .gt
  | a :: as, b :: bs => (compareIdentifiers a b).then (compareLists as bs)

/-- A pre-release comes before its release. -/
def comparePrereleases (a b : List (List Char)) : Ordering :=
  match a, b with
  | [], [] => .eq
  | [], _ :: _ => .gt
  | _ :: _, [] => .lt
  | _, _ => compareLists a b

def precedence (a b : Version) : Ordering :=
  (compare a.major b.major).then <| (compare a.minor b.minor).then <|
    (compare a.patch b.patch).then (comparePrereleases a.prerelease b.prerelease)

end Version

end HeadlessDesktop
