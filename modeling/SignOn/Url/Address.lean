import SignOn.Url.Host
import SignOn.Url.Path

/-
This file reads and writes absolute addresses.
-/

namespace SignOn.Url

open SignOn.Text

/-- The part of an address that names a machine and how to reach it; its host may be empty. -/
structure Authority where
  username : List Char
  password : Option (List Char)
  host : Option Host
  port : Option Nat
  deriving DecidableEq, Repr

structure Address where
  scheme : String
  authority : Option Authority
  path : List Char
  query : Option (List Char)
  fragment : Option (List Char)
  deriving DecidableEq, Repr

def endsPath (character : Char) : Bool := character == '?' || character == '#'

/-- The last at sign ends the name and password of a user. -/
def splitUserinfo (characters : List Char) : Option (List Char) × List Char :=
  let reversed := characters.reverse
  match reversed.dropWhile (· != '@') with
  | [] => (none, characters)
  | _ :: before => (some before.reverse, (reversed.takeWhile (· != '@')).reverse)

/-- A password without characters is no password. -/
def readUserinfo (characters : List Char) : List Char × Option (List Char) :=
  match splitFirst? ':' characters with
  | none => (percentEncode escapesInUserinfo characters, none)
  | some (username, password) =>
    (percentEncode escapesInUserinfo username,
      if password.isEmpty then none else some (percentEncode escapesInUserinfo password))

/-- The colons of an address in brackets do not end a host. -/
def splitHost (inBrackets : Bool) (newestFirst : List Char) : List Char → List Char × List Char
  | [] => (newestFirst.reverse, [])
  | character :: rest =>
    if character = ':' ∧ ¬ inBrackets then (newestFirst.reverse, character :: rest)
    else
      let inBrackets := if character = '[' then true else if character = ']' then false else inBrackets
      splitHost inBrackets (character :: newestFirst) rest

/-- The default port of a scheme is left out. -/
def readPort (kind : SchemeKind) (digits : List Char) : Except Fault (Option Nat) :=
  if digits.isEmpty then .ok none
  else
    match readDigits limit16 0 digits with
    | .error _ => .error .invalidPort
    | .ok port => .ok (if kind = .web port then none else some port)

/-- A backslash behind a port belongs to the path. -/
def splitPort (characters : List Char) : List Char × List Char :=
  (characters.takeWhile (· != '\\'), characters.dropWhile (· != '\\'))

/-- Web addresses need a host, and others need one as soon as there is a user or a port. -/
def readAuthority (kind : SchemeKind) (isLast : Bool) (characters : List Char) :
    Except Fault (Authority × List Char) := do
  let (userinfo, hostAndPort) := splitUserinfo characters
  if userinfo = some [] ∧ hostAndPort.isEmpty ∧ ¬ isLast then throw .emptyHost
  let (username, password) := readUserinfo (userinfo.getD [])
  let (hostText, portText) := splitHost false [] hostAndPort
  if hostText.isEmpty then
    if kind.isSpecial ∨ !portText.isEmpty ∨ !username.isEmpty ∨ password.isSome then
      throw .emptyHost
    return (⟨username, password, none, none⟩, [])
  let host ← if kind.isSpecial then Host.readDomain hostText else Host.readOpaque hostText
  let (digits, behind) := splitPort (portText.drop 1)
  let port ← readPort kind digits
  return (⟨username, password, some host, port⟩, behind)

def endsAuthority (isSpecial : Bool) (character : Char) : Bool :=
  isSlash isSpecial character || endsPath character

/-- Behind the path stand a query and a fragment, each behind its mark. -/
def readEnd (kind : SchemeKind) (characters : List Char) : Option (List Char) × Option (List Char) :=
  let beforeFragment := characters.takeWhile (· != '#')
  let fragment :=
    match characters.dropWhile (· != '#') with
    | [] => none
    | _ :: rest => some (percentEncode escapesInFragment rest)
  match beforeFragment with
  | '?' :: rest => (some (percentEncode (escapesInQuery kind.isSpecial) rest), fragment)
  | _ => (none, fragment)

def assemble (scheme : String) (kind : SchemeKind) (authority : Option Authority)
    (path behindPath : List Char) : Address :=
  let (query, fragment) := readEnd kind behindPath
  ⟨scheme, authority, path, query, fragment⟩

/-- An authority goes on to the first slash, query or fragment. -/
def readBehindAuthorityMark (scheme : String) (kind : SchemeKind) (characters : List Char) :
    Except Fault Address := do
  let located := characters.takeWhile fun character => !endsAuthority kind.isSpecial character
  let rest := characters.dropWhile fun character => !endsAuthority kind.isSpecial character
  let (authority, behind) ← readAuthority kind rest.isEmpty located
  let path := Path.readBehindHost kind (behind ++ rest.takeWhile (!endsPath ·))
  return assemble scheme kind (some authority) path.characters (rest.dropWhile (!endsPath ·))

def localAuthority : Authority := ⟨[], none, none, none⟩

/-- The host of a file may be left out, and the local host is. -/
def readFileHost (characters : List Char) : Except Fault (Option Host) :=
  if characters.isEmpty then .ok none
  else
    match Host.readDomain characters with
    | .error fault => .error fault
    | .ok (.name ['l', 'o', 'c', 'a', 'l', 'h', 'o', 's', 't']) => .ok none
    | .ok host => .ok (some host)

/-- A file is on a host or on a drive, and a drive is no host. -/
def readFileBehindMark (characters : List Char) : Except Fault (Authority × List Char) := do
  let hostText := withoutBreaks (characters.takeWhile fun character => !isSlash true character)
  if isDrive hostText then
    return (localAuthority, (Path.read .file characters).characters)
  let host ← readFileHost hostText
  let path := Path.readBehindHost .file
    (characters.dropWhile fun character => !isSlash true character)
  return (⟨[], none, if path.isOnDrive then none else host, none⟩, path.characters)

/-- Two slashes stand before the host of a file; its path keeps its breaks until it is read. -/
def readFile (characters : List Char) : Except Fault Address := do
  let located := characters.takeWhile (!endsPath ·)
  let (authority, path) ←
    match located.dropWhile isBreak with
    | first :: behindFirst =>
      if isSlash true first then
        match behindFirst.dropWhile isBreak with
        | second :: behindSecond =>
          if isSlash true second then readFileBehindMark behindSecond
          else pure (localAuthority, (Path.read .file behindFirst).characters)
        | [] => pure (localAuthority, ['/'])
      else pure (localAuthority, (Path.read .file located).characters)
    | [] => pure (localAuthority, ['/'])
  return assemble "file" .file (some authority) path
    (withoutBreaks (characters.dropWhile (!endsPath ·)))

/-- Without an authority the path is kept as it is unless it begins with a slash. -/
def readWithoutAuthority (scheme : String) (characters : List Char) : Address :=
  let ending := characters.dropWhile (!endsPath ·)
  match characters.takeWhile (!endsPath ·) with
  | '/' :: rest => assemble scheme .other none (Path.read .other rest).characters ending
  | path => assemble scheme .other none (percentEncode escapesControl path) ending

/-- An address without a scheme could only stand relative to another one. -/
def Address.readCharacters (characters : List Char) : Except Fault Address :=
  match splitScheme? (trimmedAddress characters) with
  | none => .error .relativeWithoutBase
  | some (scheme, rest) =>
    match schemeKind scheme with
    | .file => readFile rest
    | .web port =>
      readBehindAuthorityMark scheme (.web port) ((withoutBreaks rest).dropWhile (isSlash true))
    | .other =>
      match withoutBreaks rest with
      | '/' :: '/' :: behind => readBehindAuthorityMark scheme .other behind
      | rest => .ok (readWithoutAuthority scheme rest)

def Address.read (text : String) : Except Fault Address :=
  Address.readCharacters text.toList

namespace Authority

def writeUserinfo (authority : Authority) : String :=
  if authority.username.isEmpty ∧ authority.password.isNone then ""
  else
    String.ofList authority.username ++
      (match authority.password with
        | none => ""
        | some password => ":" ++ String.ofList password) ++ "@"

def write (authority : Authority) : String :=
  authority.writeUserinfo ++ ((authority.host.map Host.write).getD "") ++
    match authority.port with
    | none => ""
    | some port => s!":{port}"

end Authority

namespace Address

def hasHost (address : Address) : Bool :=
  (address.authority.bind (·.host)).isSome

/-- A path that begins with two slashes could be taken for an authority without a mark before it. -/
def writePath (address : Address) : String :=
  let path := String.ofList address.path
  if address.authority.isNone ∧ ['/', '/'].isPrefixOf address.path then "/." ++ path else path

def write (address : Address) : String :=
  address.scheme ++ ":" ++
    (match address.authority with
      | none => ""
      | some authority => "//" ++ authority.write) ++
    address.writePath ++
    (match address.query with
      | none => ""
      | some query => "?" ++ String.ofList query) ++
    match address.fragment with
    | none => ""
    | some fragment => "#" ++ String.ofList fragment

/-- A user who can be named is left out, and so is the password if the name is empty but the password can be read. -/
def withoutUserinfo (address : Address) : Address :=
  { address with
    authority := address.authority.map fun authority =>
      match percentDecode? authority.username with
      | none => authority
      | some username =>
        if username.isEmpty && (authority.password.bind percentDecode?).isNone then authority
        else { authority with username := [], password := none } }

end Address

end SignOn.Url
