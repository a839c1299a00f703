import NodeConsole.Url.Basic
/-!
Reading absolute URLs. A text is cut at the marks that end its parts: scheme, authority, path, query
and fragment, in this order. In URLs of the web a backslash counts as a slash, and how many slashes
stand before the authority does not matter.
-/

namespace NodeConsole.Url

/-! ## Characters without meaning -/

def isIgnored (c : Char) : Bool :=
  c == '\t' || c == '\n' || c == '\r'

def isMargin (c : Char) : Bool :=
  c.toNat ≤ 0x20

def withoutIgnored (s : List Char) : List Char :=
  s.filter fun c => !isIgnored c

def significant (s : List Char) : List Char :=
  withoutIgnored ((s.dropWhile isMargin).reverse.dropWhile isMargin).reverse

/-! ## Scheme -/

def isSchemeChar (c : Char) : Bool :=
  c.isAlphanum || c == '+' || c == '-' || c == '.'

def splitScheme? (s : List Char) : Option (List Char × List Char) :=
  match s.dropWhile isSchemeChar with
  | ':' :: rest =>
    if s.head?.any Char.isAlpha then some ((s.takeWhile isSchemeChar).map Char.toLower, rest)
    else none
  | _ => none

/-! ## Authority -/

def isSlash (special : Bool) (c : Char) : Bool :=
  c == '/' || (special && c == '\\')

def endsPath (c : Char) : Bool :=
  c == '?' || c == '#'

def endsAuthority (special : Bool) (c : Char) : Bool :=
  isSlash special c || endsPath c

def splitCredentials? (s : List Char) : Option (List Char × List Char) :=
  if s.contains '@' then
    let after := (s.reverse.takeWhile (· != '@')).reverse
    some (s.take (s.length - after.length - 1), after)
  else none

def readCredentials (s : List Char) : List Char × Option (List Char) :=
  let username := percentEncode escapedInUserInfo (s.takeWhile (· != ':'))
  match s.dropWhile (· != ':') with
  | _ :: c :: rest => (username, some (percentEncode escapedInUserInfo (c :: rest)))
  | _ => (username, none)

def splitHost (inBrackets : Bool) : List Char → List Char × List Char
  | [] => ([], [])
  | c :: rest =>
    if c == ':' && !inBrackets then ([], c :: rest)
    else
      let split := splitHost (c == '[' || (inBrackets && c != ']')) rest
      (c :: split.1, split.2)

def readPort (scheme : List Char) (s : List Char) : Except Error (Option Nat × List Char) :=
  let rest := s.dropWhile Char.isDigit
  match naturalIn? 10 (s.takeWhile Char.isDigit) with
  | none => .error .badPort
  | some port =>
    if 65535 < port || !(rest.isEmpty || rest.head? == some '\\') then .error .badPort
    else if rest.length = s.length || impliedPort? scheme = some port then .ok (none, rest)
    else .ok (some port, rest)

structure Authority where
  username : List Char
  password : Option (List Char)
  host : Host
  port : Option Nat
  rest : List Char
deriving DecidableEq, Repr

def readHost (scheme : List Char) (s : List Char) : Except Error (Host × Option Nat × List Char) := do
  let special := isSpecial scheme
  let (text, after) := splitHost false s
  if text.isEmpty && special then .error .emptyHost
  else
    let host ← if special then Host.ofSpecial text else Host.ofText text
    match after with
    | [] => .ok (host, none, [])
    | _ :: after =>
      if text.isEmpty then .error .emptyHost
      else
        let (port, rest) ← readPort scheme after
        .ok (host, port, rest)

def readAuthority (scheme : List Char) (s : List Char) : Except Error Authority := do
  let special := isSpecial scheme
  let text := s.takeWhile fun c => !endsAuthority special c
  let after := s.dropWhile fun c => !endsAuthority special c
  match splitCredentials? text with
  | none =>
    let (host, port, rest) ← readHost scheme text
    .ok ⟨[], none, host, port, rest ++ after⟩
  | some (credentials, text) =>
    if credentials.isEmpty && text.isEmpty && !after.isEmpty then .error .emptyHost
    else
      let (username, password) := readCredentials credentials
      let (host, port, rest) ← readHost scheme text
      if host = .named [] ∧ (username ≠ [] ∨ password.isSome) then .error .emptyHost
      else .ok ⟨username, password, host, port, rest ++ after⟩

/-! ## Path, query and fragment -/

def encodeSegments (segments : List (List Char)) : List (List Char) :=
  resolve (segments.map (percentEncode escapedInPath))

def readSegments (special : Bool) (s : List Char) : List (List Char) :=
  encodeSegments (piecesAt (isSlash special)
    (match s with
      | [] => []
      | c :: rest => if isSlash special c then rest else c :: rest))

def encodeQuery (scheme : List Char) (s : List Char) : List Char :=
  percentEncode (if isSpecial scheme then escapedInSpecialQuery else escapedInQuery) s

def withTail (url : Url) (s : List Char) : Url :=
  let fragment := (s.dropWhile (· != '#')).tail?.map (percentEncode escapedInFragment)
  match s with
  | '?' :: rest =>
    { url with
      query := some (encodeQuery url.scheme (rest.takeWhile (· != '#'))), fragment := fragment }
  | _ => { url with fragment := fragment }

@[simp] theorem withTail_scheme (url : Url) (text : List Char) :
    (withTail url text).scheme = url.scheme := by
  rw [withTail.eq_def]
  dsimp only
  split <;> rfl

@[simp] theorem withTail_authority (url : Url) (text : List Char) :
    (withTail url text).username = url.username ∧ (withTail url text).password = url.password ∧
      (withTail url text).host = url.host ∧ (withTail url text).port = url.port := by
  rw [withTail.eq_def]
  dsimp only
  split <;> exact ⟨rfl, rfl, rfl, rfl⟩

@[simp] theorem withTail_path (url : Url) (text : List Char) : (withTail url text).path = url.path := by
  rw [withTail.eq_def]
  dsimp only
  split <;> rfl

def splitPath (s : List Char) : List Char × List Char :=
  (s.takeWhile fun c => !endsPath c, s.dropWhile fun c => !endsPath c)

/-! ## Files -/

def plainDrive : List Char → List Char
  | [letter, mark] => if isDrive [letter, mark] then [letter, ':'] else [letter, mark]
  | segment => segment

def splitDrive : List (List Char) → List (List Char)
  | (letter :: ':' :: c :: segment) :: rest =>
    if letter.isAlpha then [letter, ':'] :: (c :: segment) :: rest
    else (letter :: ':' :: c :: segment) :: rest
  | segments => segments

def withoutEmptyFront : List (List Char) → List (List Char)
  | [] :: segment :: rest => withoutEmptyFront (segment :: rest)
  | segments => segments

def readFileSegments (s : List Char) : List (List Char) :=
  let encoded := (piecesAt (isSlash true) s).map (percentEncode escapedInPath)
  withoutEmptyFront (resolveFrom true [] ((splitDrive encoded).map plainDrive))

/-- The URL of a file. A host gives way to a drive, and the own host is left out. -/
def readFile (scheme : List Char) (s : List Char) : Except Error Url := do
  match s with
  | first :: second :: afterSlashes =>
    if isSlash true first && isSlash true second then
      let text := afterSlashes.takeWhile fun c => !endsAuthority true c
      if isDrive text || text.isEmpty then ofPath (.named []) afterSlashes
      else
        let host ← Host.ofSpecial text
        let rest := afterSlashes.drop text.length
        if host = .named "localhost".toList then ofPath (.named []) rest
        else
          let rest := match rest with
            | [] => []
            | c :: below => if isSlash true c then below else c :: below
          let hasDrive := ((piecesAt (isSlash true) (splitPath rest).1).map isDrive).any id
          ofPath (if hasDrive then .named [] else host) rest
    else ofPath (.named []) s
  | _ => ofPath (.named []) s
where
  ofPath (host : Host) (s : List Char) : Except Error Url :=
    let (path, tail) := splitPath s
    .ok (withTail { scheme := scheme, host := some host, path := .segments (readFileSegments path) } tail)

/-! ## URLs -/

def readAfterAuthority (scheme : List Char) (authority : Authority) : Url :=
  let (path, tail) := splitPath authority.rest
  let special := isSpecial scheme
  withTail {
      scheme := scheme
      username := authority.username
      password := authority.password
      host := some authority.host
      port := authority.port
      path := .segments (if path.isEmpty && !special then [] else readSegments special path) } tail

def readOther (scheme : List Char) : List Char → Except Error Url
  | '/' :: '/' :: s => (readAuthority scheme s).map (readAfterAuthority scheme)
  | '/' :: s =>
    let (path, tail) := splitPath s
    .ok (withTail { scheme := scheme, path := .segments (readSegments false ('/' :: path)) } tail)
  | s =>
    let (path, tail) := splitPath s
    .ok (withTail { scheme := scheme, path := .plain (percentEncode escapedInText path) } tail)

def ofChars (s : List Char) : Except Error Url :=
  match splitScheme? (significant s) with
  | none => .error .relative
  | some (scheme, rest) =>
    if isFileScheme scheme then readFile scheme rest
    else if isSpecial scheme then
      (readAuthority scheme (rest.dropWhile (isSlash true))).map (readAfterAuthority scheme)
    else readOther scheme rest

def parse (text : String) : Except Error Url :=
  ofChars text.toList

example : ((parse " HTTP:\\\\U:@h:80/a/./b/..?q#f").toOption.map Url.text) =
    some "http://U@h/a/?q#f" := by decide +kernel
example : (parse "mailto:a@b").toOption.map Url.path = some (.plain "a@b".toList) := by decide +kernel

end NodeConsole.Url
