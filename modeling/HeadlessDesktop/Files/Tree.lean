import HeadlessDesktop.Text.Split
import HeadlessDesktop.Text.Raw

/-! Files below a working directory, and paths to them. -/

namespace HeadlessDesktop.Files

open Text

inductive OpenError
  | missing
  | notADirectory
  | isADirectory
  | nameTooLong
  | invalidName
  | refused (reason : String)
deriving DecidableEq, Repr

def OpenError.message (error : OpenError) (path : String) : String :=
  match error with
  | .missing => "open " ++ path ++ ": no such file or directory"
  | .notADirectory => "open " ++ path ++ ": not a directory"
  | .isADirectory => "read " ++ path ++ ": is a directory"
  | .nameTooLong => "open " ++ path ++ ": file name too long"
  | .invalidName => "open " ++ path ++ ": invalid argument"
  | .refused reason => "open " ++ path ++ ": " ++ reason

/-- What the file at a path holds, which need not be text. -/
abbrev Reader := String → Except OpenError Raw

def components (path : String) : List String :=
  (splitAtChar '/' path.toList).map String.ofList

def reduced (absolute : Bool) : (kept : List String) → List String → List String
  | kept, [] => kept
  | kept, name :: rest =>
    if name = "" || name = "." then reduced absolute kept rest
    else if name = ".." then
      match kept.getLast? with
      | some last =>
        if last = ".." then reduced absolute (kept ++ [name]) rest
        else reduced absolute kept.dropLast rest
      | none => reduced absolute (if absolute then [] else [name]) rest
    else reduced absolute (kept ++ [name]) rest

/-- The entries below the working directory: what files hold, and directories, which hold nothing.
The directory has an absolute name. -/
structure Tree where
  home : String
  entries : List (List String × Option Raw) := []
deriving Repr

/-- What a path leads to. Outside of the working directory, the place is known if the path
starts at the root. -/
inductive Place
  | outside (path : Option (List String))
  | directory (path : List String)
  | file (content : Raw)
deriving Repr

namespace Tree

def ofList (home : String) (files : List (String × Option Raw)) : Tree :=
  { home
    entries := files.map fun (path, content) => (reduced false [] (components path), content) }

def at? (tree : Tree) (path : List String) : Option Place :=
  match tree.entries.lookup path with
  | some (some content) => some (.file content)
  | some none => some (.directory path)
  | none =>
    if path.isEmpty || tree.entries.any (fun entry => path.isPrefixOf entry.1) then
      some (.directory path)
    else none

def maxNameLength : Nat := 255
def maxPathLength : Nat := 4095

def systemDirectories : List String :=
  ["bin", "dev", "etc", "home", "lib", "mnt", "opt", "proc", "root", "run", "sbin", "srv", "sys",
    "tmp", "usr", "var"]

/-- What is known of the system outside of the working directory: the directories at the root,
and the device that is always empty. -/
def systemPlace? : List String → Option Place
  | [name] => if systemDirectories.contains name then some (.outside (some [name])) else none
  | ["dev", "null"] => some (.file "")
  | _ => none

def step (tree : Tree) (place : Place) (name : String) : Except OpenError Place :=
  let tooLong := decide (maxNameLength < (encodeUtf8 name).length)
  match place with
  | .file _ => .error .notADirectory
  | .outside path =>
    if name = "" || name = "." then .ok place
    else if name = ".." then .ok (.outside (path.map List.dropLast))
    else if tooLong then .error .nameTooLong
    else match path.bind fun path => systemPlace? (path ++ [name]) with
      | some place => .ok place
      | none => .error .missing
  | .directory path =>
    if name = "" || name = "." then .ok place
    else if name = ".." then
      .ok (if path.isEmpty then .outside none else .directory path.dropLast)
    else if tooLong then .error .nameTooLong
    else match tree.at? (path ++ [name]) with
      | some place => .ok place
      | none => .error .missing

def walk (tree : Tree) : Place → List String → Except OpenError Place
  | place, [] => .ok place
  | place, name :: rest => do walk tree (← tree.step place name) rest

def belowHome? (tree : Tree) (path : String) : Option String :=
  let home := tree.home.toList ++ ['/']
  if home.isPrefixOf path.toList then some (String.ofList (path.toList.drop home.length)) else none

def find (tree : Tree) (path : String) : Except OpenError Place :=
  if path.toList.contains (Char.ofNat 0) then .error .invalidName
  else if path = "" then .error .missing
  else if maxPathLength < (encodeUtf8 path).length then .error .nameTooLong
  else match tree.belowHome? path with
    | some below => tree.walk (.directory []) (components below)
    | none =>
      tree.walk (if path.toList.head? == some '/' then .outside (some []) else .directory [])
        (components path)

def read (tree : Tree) : Reader := fun path => do
  match ← tree.find path with
  | .file content => .ok content
  | _ => .error .isADirectory

end Tree

def clean (path : String) : String :=
  let absolute := path.toList.head? == some '/'
  let body := joinWith "/" (reduced absolute [] (components path))
  if absolute then "/" ++ body else if body = "" then "." else body

def join (directory name : String) : String :=
  clean (if directory = "" then name else directory ++ "/" ++ name)

end HeadlessDesktop.Files
