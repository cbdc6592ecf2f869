/-
**Reading URLs.**

A text is a URL of its own or is resolved against a base. Controls and spaces at its ends and every
tab and line break are dropped first. Segments `.` and `..` are resolved while the path is read.

* `Url.parse`: a URL that stands on its own;
* `Url.join`: a URL relative to a base;
* `Url.walk`: the segments of a path, with the dots and drives resolved.
-/

import LoadTest.Url.Basic

namespace LoadTest.Url

open Text Decimal Percent

/-- The text without controls and spaces at its ends, and without tabs and line breaks. -/
def clean (input : String) : List Char :=
  let isEdge (c : Char) : Bool := c.toNat ≤ 0x20
  let trimmed := ((input.toList.dropWhile isEdge).reverse.dropWhile isEdge).reverse
  trimmed.filter fun c => c != '\t' && c != '\n' && c != '\r'

/-- The scheme that a text begins with, in lower case, and what follows its colon. -/
def splitScheme (text : List Char) : Option (List Char × List Char) :=
  match text with
  | [] => none
  | first :: _ =>
    if !first.isAlpha then none
    else
      let isSchemeChar (c : Char) : Bool := c.isAlphanum || c = '+' || c = '-' || c = '.'
      match text.dropWhile isSchemeChar with
      | ':' :: rest => some ((text.takeWhile isSchemeChar).map Char.toLower, rest)
      | _ => none

/-- Whether a character separates segments. -/
def isSlash (kind : SchemeKind) (c : Char) : Bool := c = '/' || (c = '\\' && kind != .other)

/-- Whether a character begins the query or the fragment. -/
def endsPath (c : Char) : Bool := c = '?' || c = '#'

/-- A segment that stands for its own level. -/
def isSingleDot (segment : List Char) : Bool :=
  let lower := segment.map Char.toLower
  lower = ['.'] || lower = ['%', '2', 'e']

/-- A segment that stands for the level above. -/
def isDoubleDot (segment : List Char) : Bool :=
  match segment.map Char.toLower with
  | '.' :: rest => isSingleDot rest
  | '%' :: '2' :: 'e' :: rest => isSingleDot rest
  | _ => false

/-- A letter and a colon or a bar name a drive. -/
def isDrive : List Char → Bool
  | [letter, mark] => letter.isAlpha && (mark = ':' || mark = '|')
  | _ => false

/-- A drive as it is kept: its mark is a colon. -/
def isKeptDrive (segment : List Char) : Bool := isDrive segment && segment.getLast? = some ':'

/-- Whether a segment is a drive, or begins like one before a backslash. -/
def beginsWithDrive (segment : List Char) : Bool :=
  isDrive (segment.take 2) && (match segment.drop 2 with
    | [] => true
    | c :: _ => c = '\\')

/-- The segments of a path text with the last one open: what follows is added to it. -/
abbrev Segments := List (List Char)

/-- The root. -/
def root : Segments := [[]]

/-- The path without what is in its open segment; the drive of a file stays there. -/
def emptied (kind : SchemeKind) (path : Segments) : Segments :=
  if kind = .file ∧ path.getLast?.any isKeptDrive then path else path.dropLast ++ root

/-- The path one level up. The root has no level above, and neither has a segment that begins with a
drive. -/
def above (kind : SchemeKind) (path : Segments) : Segments :=
  let closed := path.dropLast
  if path.getLast? ≠ some [] then emptied kind path
  else if closed.getLast?.all beginsWithDrive then path
  else closed.dropLast ++ root

/-- The path with its open segment closed, unless that is empty. -/
def opened (path : Segments) : Segments := if path.getLast? = some [] then path else path ++ root

/-- The path with a piece added to its open segment. -/
def extended (path : Segments) (piece : List Char) : Segments :=
  path.dropLast ++ [path.getLast?.getD [] ++ piece]

/-- A path, and whether the drive of a file was found in it right behind the root. -/
structure Walk where
  path : Segments
  foundDrive : Bool

/-- The path with one more piece, which a slash follows if it is `closed`. The first segment of a
file is a drive if it looks like one, and has a colon. -/
def Walk.add (kind : SchemeKind) (walk : Walk) (closed : Bool) (piece : List Char) : Walk :=
  let isOpenDrive := kind = .file && !piece.isEmpty && (match walk.path with
    | [segment] => isKeptDrive segment
    | _ => false)
  let path := if isOpenDrive then walk.path ++ root else walk.path
  if isDoubleDot piece then
    let path := above kind path
    { walk with path := if closed then opened path else path }
  else if isSingleDot piece then { walk with path := opened path }
  else
    let namesDrive := kind = .file && path = root && isDrive piece
    let path := extended path (if namesDrive then piece.take 1 ++ [':'] else piece)
    ⟨if closed then path ++ root else path, walk.foundDrive || namesDrive⟩

/-- **The path with all pieces of a text**; every piece but the last is followed by a slash. -/
def walk (kind : SchemeKind) (start : Walk) : List (List Char) → Walk
  | [] => start
  | [last] => start.add kind false last
  | piece :: rest => walk kind (start.add kind true piece) rest

/-- The text cut at every slash. -/
def pieces (kind : SchemeKind) (text : List Char) : List (List Char) :=
  ((text.map fun c => if isSlash kind c then '/' else c).splitOn '/').map (encode pathSet)

/-- The segments of a file without the empty ones at their beginning. -/
def tidied (kind : SchemeKind) (path : Segments) : Segments :=
  if kind = .file then
    match path.dropWhile List.isEmpty with
    | [] => root
    | kept => kept
  else path

/-- The query and the fragment of what follows a path. -/
def queryAndFragment (kind : SchemeKind) (rest : List Char) :
    Option (List Char) × Option (List Char) :=
  let set := if kind = .other then querySet else specialQuerySet
  let query := rest.takeWhile (· != '#')
  let fragment := match rest.dropWhile (· != '#') with
    | '#' :: text => some (encode fragmentSet text)
    | _ => none
  match query with
  | '?' :: text => (some (encode set text), fragment)
  | _ => (none, fragment)

/-- A URL with a path, and with the query and fragment of what follows the path. -/
def finish (kind : SchemeKind) (scheme : List Char) (authority : Option Authority) (path : UrlPath)
    (rest : List Char) : Url :=
  let (query, fragment) := queryAndFragment kind rest
  ⟨scheme, authority, path, query, fragment⟩

/-- The path of a text up to its query, resolved against a path. -/
def walkText (kind : SchemeKind) (start : Segments) (text : List Char) : Walk :=
  walk kind ⟨start, false⟩ (pieces kind (text.takeWhile fun c => !endsPath c))

/-- A URL of a path text, with what follows it, that is resolved against a path. -/
def withPath (kind : SchemeKind) (scheme : List Char) (authority : Option Authority)
    (start : Segments) (text : List Char) : Url :=
  finish kind scheme authority (.segments (tidied kind (walkText kind start text).path))
    (text.dropWhile fun c => !endsPath c)

/-- User and password before the last `@` of an authority, and what follows it. -/
def splitUser (kind : SchemeKind) (authority after : List Char) :
    Except UrlFault (List Char × List Char × List Char) :=
  match splitLast '@' authority with
  | none => .ok ([], [], authority)
  | some (user, host) =>
    if user.isEmpty && host.isEmpty && (match after with
        | c :: _ => endsPath c || isSlash kind c
        | [] => false) then .error .emptyHost
    else
      match splitFirst ':' user with
      | none => .ok (encode userSet user, [], host)
      | some (name, password) => .ok (encode userSet name, encode userSet password, host)

/-- The host of an authority, and what follows it. -/
def splitHost (text : List Char) (inside : Bool) : List Char × List Char :=
  match text with
  | [] => ([], [])
  | c :: rest =>
    if c = ':' && !inside then ([], text)
    else
      let inside := if c = '[' then true else if c = ']' then false else inside
      let (host, after) := splitHost rest inside
      (c :: host, after)

/-- The port behind a colon, unless it is the scheme's own. -/
def portOf (scheme digits : List Char) : Except UrlFault (Option Nat) :=
  if !digits.all Char.isDigit || 65535 < digitsValue digits then .error .port
  else if digits.isEmpty || some (digitsValue digits) = defaultPort scheme then .ok none
  else .ok (some (digitsValue digits))

/-- The authority of a text up to its path, and what a backslash behind the port leaves of it. -/
def authorityOf (kind : SchemeKind) (scheme text after : List Char) :
    Except UrlFault (Authority × List Char) := do
  let (user, password, hostAndPort) ← splitUser kind text after
  let (hostText, rest) := splitHost hostAndPort false
  if kind = .web ∧ hostText.isEmpty then throw .emptyHost
  let host ← if kind = .other then Host.parseOpaque hostText else Host.parse hostText
  if host = .name [] ∧ (!rest.isEmpty ∨ !user.isEmpty ∨ !password.isEmpty) then throw .emptyHost
  let (port, left) ← match rest with
    | ':' :: port => do
      pure (← portOf scheme (port.takeWhile (· != '\\')), port.dropWhile (· != '\\'))
    | _ => pure (none, [])
  .ok (⟨user, password, host, port⟩, left)

/-- A URL whose authority begins here. Only where a scheme has no rules of its own a path may be
missing. -/
def withAuthority (kind : SchemeKind) (scheme text : List Char) : Except UrlFault Url := do
  let isEnd (c : Char) : Bool := endsPath c || isSlash kind c
  let after := text.dropWhile fun c => !isEnd c
  let (authority, left) ← authorityOf kind scheme (text.takeWhile fun c => !isEnd c) after
  match left ++ after with
  | [] => .ok (withoutPath authority [])
  | c :: rest =>
    if endsPath c then .ok (withoutPath authority (c :: rest))
    else .ok (withPath kind scheme (some authority) root (if isSlash kind c then rest else c :: rest))
where
  withoutPath (authority : Authority) (rest : List Char) : Url :=
    finish kind scheme (some authority) (.segments (if kind = .other then [] else root)) rest

/-- Whether a text begins with a drive as a segment of its own. -/
def startsWithDrive (text : List Char) : Bool :=
  match text with
  | letter :: mark :: rest =>
    isDrive [letter, mark] && (match rest with
      | [] => true
      | c :: _ => isSlash .file c || endsPath c)
  | _ => false

/-- The word for a scheme of files. -/
def fileScheme : List Char := ['f', 'i', 'l', 'e']

/-- The path of a URL as segments. -/
def segmentsOf (url : Url) : Segments :=
  match url.path with
  | .segments segments => segments
  | .whole _ => []

/-- No host at all. -/
def noHost : Authority := ⟨[], [], .name [], none⟩

/-- The host of this machine, which files need not name. -/
def localhost : Host := .name "localhost".toList

/-- A URL of a file whose host begins here. A drive is no host, and a path that begins with one has
none. Behind a host the slash belongs to the root; without one it begins a segment of its own. -/
def fileWithHost (text : List Char) : Except UrlFault Url := do
  let isEnd (c : Char) : Bool := endsPath c || isSlash .file c
  let hostText := text.takeWhile fun c => !isEnd c
  if isDrive hostText then return withPath .file fileScheme (some noHost) root text
  let host ← if hostText.isEmpty then pure localhost else Host.parse hostText
  let after := text.dropWhile fun c => !isEnd c
  if host = localhost then return withPath .file fileScheme (some noHost) root after
  let path := match after with
    | c :: rest => if isSlash .file c then rest else after
    | [] => []
  let authority := if (walkText .file root path).foundDrive then noHost else { noHost with host }
  return withPath .file fileScheme (some authority) root path

/-- A URL of a file, resolved against another one if there is one. -/
def parseFile (text : List Char) (base : Option Url) : Except UrlFault Url :=
  let isFileSlash := isSlash .file
  match text with
  | first :: second :: rest =>
    if isFileSlash first ∧ isFileSlash second then fileWithHost rest
    else if isFileSlash first then .ok (fromRoot (second :: rest) base)
    else .ok (relative text base)
  | [first] => .ok (if isFileSlash first then fromRoot [] base else relative text base)
  | [] => .ok (relative text base)
where
  /-- A path from the root, on the drive or the host of the base. -/
  fromRoot (rest : List Char) (base : Option Url) : Url :=
    match base.filter fun _ => !startsWithDrive rest with
    | none => withPath .file fileScheme (some noHost) root rest
    | some base =>
      match (segmentsOf base).head? with
      | some segment =>
        if isKeptDrive segment then
          withPath .file fileScheme (some noHost) [segment, []] rest
        else withPath .file fileScheme base.authority root rest
      | none => withPath .file fileScheme base.authority root rest
  /-- A path relative to the base. -/
  relative (text : List Char) (base : Option Url) : Url :=
    match base with
    | none => withPath .file fileScheme (some noHost) root text
    | some base =>
      match text with
      | [] => base.withoutFragment
      | '?' :: _ => finish .file base.scheme base.authority base.path text
      | '#' :: _ =>
        { base with fragment := (queryAndFragment .file text).2 }
      | _ =>
        if startsWithDrive text then withPath .file fileScheme (some noHost) root text
        else withPath .file fileScheme base.authority (emptied .file (segmentsOf base)) text

/-- A text without a scheme, resolved against a base that has segments. -/
def relativeTo (base : Url) (text : List Char) : Except UrlFault Url :=
  let kind := kindOf base.scheme
  match text with
  | [] => .ok base.withoutFragment
  | '?' :: _ => .ok (finish kind base.scheme base.authority base.path text)
  | '#' :: _ => .ok { base with fragment := (queryAndFragment kind text).2 }
  | first :: rest =>
    if isSlash .web first then
      match rest with
      | second :: after =>
        if isSlash .web second then
          let isDouble := first = '/' ∧ second = '/'
          withAuthority kind base.scheme
            (if isDouble then after else after.dropWhile (isSlash .web))
        else .ok (withPath kind base.scheme base.authority root rest)
      | [] => .ok (withPath kind base.scheme base.authority root rest)
    else .ok (withPath kind base.scheme base.authority (emptied kind (segmentsOf base)) text)

/-- A URL with a scheme of its own. -/
def withScheme (scheme rest : List Char) (base : Option Url) : Except UrlFault Url :=
  let slashes := rest.takeWhile (isSlash .web)
  match kindOf scheme with
  | .file => parseFile rest (base.filter fun url => url.scheme = scheme)
  | .web =>
    match base.filter fun url => url.scheme = scheme && slashes.length < 2 with
    | some base => relativeTo base rest
    | none => withAuthority .web scheme (rest.drop slashes.length)
  | .other =>
    match rest with
    | '/' :: '/' :: authority => withAuthority .other scheme authority
    | '/' :: path => .ok (withPath .other scheme none root path)
    | _ =>
      .ok (finish .other scheme none
        (.whole (encode controlSet (rest.takeWhile fun c => !endsPath c)))
        (rest.dropWhile fun c => !endsPath c))

/-- **A URL that may be relative to a base.** -/
def resolve (input : String) (base : Option Url) : Except UrlFault Url :=
  let text := clean input
  match splitScheme text with
  | some (scheme, rest) => withScheme scheme rest base
  | none =>
    match base with
    | none => .error .withoutBase
    | some base =>
      match text with
      | '#' :: _ => .ok { base with fragment := (queryAndFragment (kindOf base.scheme) text).2 }
      | _ =>
        if base.isOpaque then .error .opaqueBase
        else if kindOf base.scheme = .file then parseFile text (some base)
        else relativeTo base text

/-- A URL that stands on its own. -/
def parse (input : String) : Except UrlFault Url := resolve input none

/-- A URL relative to a base. -/
def join (base : Url) (input : String) : Except UrlFault Url := resolve input (some base)

end LoadTest.Url
