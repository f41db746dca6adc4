import MachiningViewer.Http.Host

/-!
# URLs

A `Url` is an absolute URL in its normal form, and `Url.parse?` reads one from a text much as the
URL Standard asks: space around it and line breaks inside it do not count, the segments `.` and `..`
of its path are resolved, and characters that a part does not hold are percent-encoded. Some schemes
are *special*: their URLs have a host, and a backslash counts as a slash in them.

The path of a file may begin with a drive, a letter and a colon. No segment `..` leads out of a
drive, in the URL of a file or any other.
-/

namespace MachiningViewer.Http

/-- The path of a URL. -/
inductive UrlPath where
  /-- A text without structure. -/
  | flat (text : String)
  | segments (parts : List String)
  deriving DecidableEq, Repr

/-- An absolute URL. -/
structure Url where
  scheme : String
  userName : String
  password : String
  host : Option String
  /-- The port, where it is not the one that the scheme has by default. -/
  port : Option Nat
  path : UrlPath
  query : Option String
  fragment : Option String
  deriving DecidableEq, Repr

namespace Url

/-! ### Schemes -/

/-- The special schemes, and the ports that they have by default. -/
def specialSchemes : List (String × Option Nat) :=
  [("http", some 80), ("https", some 443), ("ws", some 80), ("wss", some 443), ("ftp", some 21),
    ("file", none)]

/-- Is a scheme special? -/
def isSpecial (scheme : String) : Bool :=
  specialSchemes.any (·.1 == scheme)

/-- The port that a scheme has by default. -/
def defaultPort? (scheme : String) : Option Nat :=
  (specialSchemes.lookup scheme).join

/-- A character of a scheme after the first. -/
def isSchemeChar (c : Char) : Bool :=
  Text.isAsciiLetter c || Text.isAsciiDigit c || c == '+' || c == '-' || c == '.'

/-- The scheme at the front of a text, and what follows its colon. -/
def scheme? (cs : List Char) : Option (String × List Char) :=
  match cs.takeWhile isSchemeChar, cs.dropWhile isSchemeChar with
  | c :: name, ':' :: rest =>
    if Text.isAsciiLetter c then some (String.ofList ((c :: name).map Char.toLower), rest) else none
  | _, _ => none

/-! ### Parts -/

/-- Cuts a text at the first character that satisfies `p`, which belongs to neither part. -/
def cutAt (p : Char → Bool) (cs : List Char) : List Char × Option (List Char) :=
  let front := cs.takeWhile fun c => !p c
  match cs.dropWhile fun c => !p c with
  | [] => (front, none)
  | _ :: back => (front, some back)

/-- Cuts a text at the last at sign. -/
def cutAtLastAt (cs : List Char) : Option (List Char) × List Char :=
  match cutAt (· == '@') cs.reverse with
  | (_, none) => (none, cs)
  | (back, some front) => (some front.reverse, back.reverse)

/-- Does a character separate the segments of a path? -/
def isSeparator (special : Bool) (c : Char) : Bool :=
  c == '/' || (special && c == '\\')

/-- Cuts a text at each character that satisfies `p`. -/
def splitAt (p : Char → Bool) (cs : List Char) : List (List Char) :=
  cs.foldr (fun c parts =>
    if p c then [] :: parts
    else
      match parts with
      | [] => [[c]]
      | part :: parts => (c :: part) :: parts) [[]]

/-- Does a segment stand for the place where it is? -/
def isHere (s : List Char) : Bool :=
  [".", "%2e"].contains (String.ofList (s.map Char.toLower))

/-- Does a segment stand for the place above? -/
def isAbove (s : List Char) : Bool :=
  ["..", ".%2e", "%2e.", "%2e%2e"].contains (String.ofList (s.map Char.toLower))

/-- A tab or the end of a line, which does not count inside a URL. -/
def isBreak (c : Char) : Bool :=
  c == '\t' || c == '\n' || c == '\r'

/-- A text without the tabs and the ends of lines in it. -/
def withoutBreaks (cs : List Char) : List Char :=
  cs.filter (!isBreak ·)

/-- A letter with a colon, or with a bar in its place. -/
def isDrive (s : List Char) : Bool :=
  match s with
  | [letter, mark] => Text.isAsciiLetter letter && (mark == ':' || mark == '|')
  | _ => false

/-- The way through the segments of a path. -/
structure Walk where
  /-- The segments that lead to the current place, the last one first. -/
  passed : List String
  /-- The first of them is a drive, so that the path needs no host. -/
  onDrive : Bool

namespace Walk

/-- Goes up to the place above. Nothing is above a drive. -/
def up (w : Walk) : Walk :=
  match w.passed with
  | [] => w
  | last :: before => if isDrive last.toList then w else { w with passed := before }

/-- Goes on to a segment. -/
def enter (w : Walk) (s : List Char) : Walk :=
  { w with passed := String.ofList (Percent.encode Percent.path s) :: w.passed }

/-- Goes on to a segment of the path of a file as it is written. The first one may be a drive. A
drive ends where the line breaks behind it. -/
def enterFile (w : Walk) (written : List Char) : Walk :=
  let s := withoutBreaks written
  if !w.passed.isEmpty then w.enter s
  else
    match s with
    | letter :: mark :: rest =>
      if !isDrive [letter, mark] then w.enter s
      else if rest.isEmpty then ⟨[String.ofList [letter, ':']], true⟩
      else if mark == ':' && ((written.dropWhile (· ≠ ':')).drop 1).head?.any isBreak then
        (w.enter [letter, mark]).enter rest
      else w.enter s
    | _ => w.enter s

end Walk

/-- Goes through the segments of a path. A path that ends with a segment for a place ends with a
separator. -/
def resolve (inFile : Bool) (w : Walk) : List (List Char) → Walk
  | [] => w
  | written :: rest =>
    let s := withoutBreaks written
    let next :=
      if isAbove s then w.up
      else if isHere s then w
      else if inFile then w.enterFile written else w.enter s
    let ended := rest.isEmpty && (isAbove s || isHere s)
    resolve inFile (if ended then next.enter [] else next) rest

/-- The segments of a path behind its first separator. -/
def segmentsBehind (special : Bool) (cs : List Char) : List String :=
  (resolve false ⟨[], false⟩ (splitAt (isSeparator special) cs)).passed.reverse

/-- The segments of a path. Special URLs have at least one. -/
def segments (special : Bool) (cs : List Char) : List String :=
  match cs with
  | [] => if special then [""] else []
  | c :: rest => segmentsBehind special (if isSeparator special c then rest else cs)

/-- The segments of the path of a file, which does not begin with empty ones, and whether the first
of them is a drive. -/
def fileSegments (cs : List Char) : List String × Bool :=
  let w := resolve true ⟨[], false⟩ (splitAt (isSeparator true) cs)
  match w.passed.reverse.dropWhile (·.isEmpty) with
  | [] => ([""], w.onDrive)
  | parts => (parts, w.onDrive)

/-- A port after the colon: nothing, or a number of 16 bits. -/
def port? (cs : List Char) : Option (Option Nat) :=
  if cs.isEmpty then some none
  else if cs.all Text.isAsciiDigit then
    match Host.digits? 10 cs with
    | some n => if n < 0x10000 then some (some n) else none
    | none => none
  else none

/-- Cuts a text at the first colon that is not in brackets. -/
def cutAtPort (inBrackets : Bool) : List Char → List Char × Option (List Char)
  | [] => ([], none)
  | c :: rest =>
    if c == ':' && !inBrackets then ([], some rest)
    else
      let (front, back) := cutAtPort (c == '[' || (inBrackets && c != ']')) rest
      (c :: front, back)

/-- A part of the user information as it is written. -/
def userPart (cs : List Char) : String :=
  String.ofList (Percent.encode Percent.userInfo cs)

/-- Who and where: user name, password, host and port. -/
structure Authority where
  userName : String
  password : String
  host : String
  port : Option Nat
  /-- What follows the port. In URLs that are not special a backslash ends it. -/
  rest : List Char

/-- The authority of a URL. Of a URL that is not special the host may be empty, but then there is no
user and no port either, and an empty user only at the very end. -/
def authority? (scheme : String) (isEnd : Bool) (cs : List Char) : Option Authority := do
  let (user, place) := cutAtLastAt cs
  guard (user ≠ some [] || !place.isEmpty || isEnd)
  let (name, password) := cutAt (· == ':') (user.getD [])
  let (userName, password) := (userPart name, userPart (password.getD []))
  let (hostText, portText) := cutAtPort false place
  let host ← if isSpecial scheme then Host.ofSpecial? hostText else Host.ofOther? hostText
  guard (!host.isEmpty || (userName.isEmpty && password.isEmpty && portText.isNone))
  let portText := portText.getD []
  let port ← port? (portText.takeWhile (· ≠ '\\'))
  let port := if port = defaultPort? scheme then none else port
  pure ⟨userName, password, host, port, portText.dropWhile (· ≠ '\\')⟩

/-! ### Reading -/

/-- A URL of a scheme without user, host and port. -/
def bare (scheme : String) (path : UrlPath) : Url :=
  ⟨scheme, "", "", none, none, path, none, none⟩

/-- A URL with an authority. -/
def withAuthority (u : Url) (a : Authority) : Url :=
  { u with userName := a.userName, password := a.password, host := some a.host, port := a.port }

/-- Reads what stands between the colon of the scheme and the query of a special URL. -/
def specialPlace? (scheme : String) (cs : List Char) : Option Url := do
  let rest := cs.dropWhile (isSeparator true)
  let place := rest.takeWhile fun c => !isSeparator true c
  let path := rest.dropWhile fun c => !isSeparator true c
  let a ← authority? scheme false place
  pure ((bare scheme (.segments (segments true path))).withAuthority a)

/-- The URL of a file at a host, where there are no drives. -/
def atHost (scheme host : String) (path : List Char) : Url :=
  let (parts, onDrive) := fileSegments path
  { bare scheme (.segments parts) with host := some (if onDrive then "" else host) }

/-- What follows a separator at the front of a text. -/
def behindSeparator? (cs : List Char) : Option (List Char) :=
  match cs.dropWhile isBreak with
  | c :: rest => if isSeparator true c then some rest else none
  | [] => none

/-- Reads what stands between the colon of the scheme and the query of the URL of a file. A host
stands between two separators and the next one. A drive is none, and the local host is not named. -/
def filePlace? (scheme : String) (cs : List Char) : Option Url :=
  match behindSeparator? cs with
  | none => some (atHost scheme "" cs)
  | some rest =>
    match behindSeparator? rest with
    | none => some (atHost scheme "" rest)
    | some rest =>
      let place := withoutBreaks (rest.takeWhile fun c => !isSeparator true c)
      let path := rest.dropWhile fun c => !isSeparator true c
      if isDrive place then some (atHost scheme "" rest)
      else if place.isEmpty then some (atHost scheme "" path)
      else
        (Host.ofSpecial? place).map fun host =>
          if host = "localhost" then atHost scheme "" path else atHost scheme host (path.drop 1)

/-- Reads what stands between the colon of the scheme and the query of any other URL. -/
def otherPlace? (scheme : String) (isEnd : Bool) (cs : List Char) : Option Url := do
  match cs with
  | '/' :: '/' :: rest =>
    let path := rest.dropWhile (· ≠ '/')
    let a ← authority? scheme (isEnd && path.isEmpty) (rest.takeWhile (· ≠ '/'))
    pure ((bare scheme (.segments (segments false (a.rest ++ path)))).withAuthority a)
  | '/' :: _ => pure (bare scheme (.segments (segments false cs)))
  | cs => pure (bare scheme (.flat (String.ofList (Percent.encode Percent.controls cs))))

/-- A control or a space, which does not count around a URL. -/
def isEdge (c : Char) : Bool :=
  c.toNat ≤ 0x20

/-- A text without what does not count around a URL. -/
def core (text : String) : List Char :=
  Text.dropEndWhile isEdge (text.toList.dropWhile isEdge)

/-- A part of a URL with the characters percent-encoded that it does not hold. -/
def encoded (s : Percent.Set) (cs : List Char) : String :=
  String.ofList (Percent.encode s (withoutBreaks cs))

/-- Reads an absolute URL. -/
def parse? (text : String) : Option Url := do
  let cs := core text
  let (scheme, _) ← scheme? (withoutBreaks cs)
  let (rest, fragment) := cutAt (· == '#') ((cs.dropWhile (· ≠ ':')).drop 1)
  let (rest, query) := cutAt (· == '?') rest
  let isEnd := query.isNone && fragment.isNone
  let place ←
    if scheme = "file" then filePlace? scheme rest
    else if isSpecial scheme then specialPlace? scheme (withoutBreaks rest)
    else otherPlace? scheme isEnd (withoutBreaks rest)
  let querySet := if isSpecial scheme then Percent.specialQuery else Percent.query
  let query := query.map (encoded querySet)
  pure { place with query, fragment := fragment.map (encoded Percent.fragment) }

/-! ### Writing -/

/-- The path as it is written. -/
def pathText (u : Url) : String :=
  match u.path with
  | .flat text => text
  | .segments parts => String.join (parts.map ("/" ++ ·))

/-- The user information as it is written. -/
def userText (u : Url) : String :=
  if u.userName.isEmpty && u.password.isEmpty then ""
  else u.userName ++ (if u.password.isEmpty then "" else ":" ++ u.password) ++ "@"

/-- What stands between the scheme and the path. -/
def placeText (u : Url) : String :=
  match u.host with
  | some host =>
    "//" ++ u.userText ++ host ++ (u.port.map fun n => ":" ++ toString n).getD ""
  | none =>
    match u.path with
    | .segments ("" :: _ :: _) => "/."
    | _ => ""

/-- The query with its question mark. -/
def queryText (u : Url) : String :=
  (u.query.map ("?" ++ ·)).getD ""

/-- The whole URL. -/
def write (u : Url) : String :=
  u.scheme ++ ":" ++ u.placeText ++ u.pathText ++ u.queryText ++
    (u.fragment.map ("#" ++ ·)).getD ""

/-- What a server is asked for: the path and the query. -/
def target (u : Url) : String :=
  u.pathText ++ u.queryText

/-- A part of the user information as it was before it was percent-encoded, if it was a text. -/
def userText? (part : String) : Option String :=
  Text.Utf8.decode? (Percent.decode part.toList)

/-- The URL without user name and password, if there are any and the user name is a text. A password
without a user name has to be a text too. -/
def withoutUser (u : Url) : Url :=
  match userText? u.userName with
  | none => u
  | some name =>
    if name.isEmpty && (userText? u.password).isNone then u
    else { u with userName := "", password := "" }

end Url

end MachiningViewer.Http
