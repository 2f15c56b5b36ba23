import StorageConsole.Url.Basic

namespace StorageConsole.Url

/-! ### Cleaning -/

def isEdge (c : Char) : Bool := c.toNat ≤ 0x20

def trimEdges (cs : List Char) : List Char :=
  ((cs.dropWhile isEdge).reverse.dropWhile isEdge).reverse

def isBreak (c : Char) : Bool := c == '\t' || c == '\n' || c == '\r'

def solid (cs : List Char) : List Char := cs.filter (!isBreak ·)

/-! ### Schemes -/

def isSchemeStart (c : Char) : Bool := c.isAlpha

def isSchemeChar (c : Char) : Bool := c.isAlphanum || c == '+' || c == '-' || c == '.'

def scheme? (cs : List Char) : Option (List Char) :=
  if cs.head?.any isSchemeStart && (cs.dropWhile isSchemeChar).head? == some ':' then
    some ((cs.takeWhile isSchemeChar).map Char.toLower)
  else none

def isSlash (kind : Kind) (c : Char) : Bool :=
  c == '/' || (c == '\\' && kind != .other)

/-! ### Query and fragment -/

def endsPath (c : Char) : Bool := c == '?' || c == '#'

def tail (kind : Kind) (cs : List Char) : Option (List Char) × Option (List Char) :=
  let keeps := if kind = .other then Escaping.inQuery else Escaping.inWebQuery
  let fragment (cs : List Char) : Option (List Char) :=
    match cs with
    | '#' :: rest => some (Escaping.encode Escaping.inFragment rest)
    | _ => none
  match cs with
  | '?' :: rest =>
    (some (Escaping.encode keeps (rest.takeWhile (· != '#'))),
      fragment (rest.dropWhile (· != '#')))
  | _ => (none, fragment cs)

/-! ### Paths -/

def dots : List Char → Option Nat
  | [] => some 0
  | '.' :: rest => (dots rest).map (· + 1)
  | '%' :: '2' :: 'e' :: rest => (dots rest).map (· + 1)
  | '%' :: '2' :: 'E' :: rest => (dots rest).map (· + 1)
  | _ => none

def isDrive : List Char → Bool
  | [c, d] => c.isAlpha && (d == ':' || d == '|')
  | _ => false

def isPlainDrive (cs : List Char) : Bool :=
  isDrive cs && cs.getLast? == some ':'

def startsWithDrive : List Char → Bool
  | c :: d :: rest =>
    isDrive [c, d] && (match rest with
      | [] => true
      | e :: _ => e == '/' || e == '\\' || endsPath e)
  | _ => false

def brokenDrive? (piece : List Char) : Option (List Char × List Char) :=
  match piece.dropWhile isBreak with
  | c :: rest =>
    match rest.dropWhile isBreak with
    | ':' :: b :: more =>
      if c.isAlpha && isBreak b && !(solid more).isEmpty then some ([c, ':'], solid more) else none
    | _ => none
  | [] => none

def parent (segments : List (List Char)) : List (List Char) :=
  match segments.getLast? with
  | some last => if startsWithDrive last then segments else segments.dropLast
  | none => []

structure Walk where
  segments : List (List Char)
  -- A drive was named at the root.
  drive : Bool := false

def Walk.down (kind : Kind) (w : Walk) (piece : List Char) : Walk :=
  let name := Escaping.encode Escaping.inPath (solid piece)
  if kind = .file ∧ w.segments = [] then
    -- a drive ends in a colon, and a break behind it ends the segment
    match brokenDrive? piece with
    | some (drive, rest) => { w with segments := [drive, Escaping.encode Escaping.inPath rest] }
    | none =>
      if isDrive (solid piece) then { segments := [(solid piece).take 1 ++ [':']], drive := true }
      else { w with segments := [name] }
  else { w with segments := w.segments ++ [name] }

def Walk.along (kind : Kind) : Walk → (pieces : List (List Char)) → Walk
  | w, [] => w
  | w, [piece] =>
    match dots (solid piece) with
    | some 2 => { w with segments := parent w.segments ++ [[]] }
    | some 1 => { w with segments := w.segments ++ [[]] }
    | _ => w.down kind piece
  | w, piece :: next :: more =>
    match dots (solid piece) with
    | some 2 => Walk.along kind { w with segments := parent w.segments } (next :: more)
    | some 1 => Walk.along kind w (next :: more)
    | _ => Walk.along kind (w.down kind piece) (next :: more)

def walk (kind : Kind) (above : List (List Char)) (cs : List Char) : Walk :=
  Walk.along kind { segments := above } (Text.pieces (isSlash kind) (cs.takeWhile (!endsPath ·)))

def tidy (kind : Kind) (segments : List (List Char)) : List (List Char) :=
  if kind = .file then
    match segments.dropWhile List.isEmpty with
    | [] => [[]]
    | kept => kept
  else segments

def dropSlash (kind : Kind) (cs : List Char) : List Char :=
  match cs with
  | c :: rest => if isSlash kind c then rest else cs
  | [] => []

def withPath (scheme : List Char) (authority : Option Authority) (above : List (List Char))
    (cs : List Char) : Url :=
  let kind := Kind.ofScheme scheme
  let (query, fragment) := tail kind (solid (cs.dropWhile (!endsPath ·)))
  ⟨scheme, authority, .rooted (tidy kind (walk kind above cs).segments), query, fragment⟩

/-! ### Authorities -/

def endsAuthority (kind : Kind) (c : Char) : Bool :=
  isSlash kind c || endsPath c

def splitCredentials (cs : List Char) : Option (List Char × List Char) :=
  match cs.reverse.dropWhile (· != '@') with
  | '@' :: front => some (front.reverse, (cs.reverse.takeWhile (· != '@')).reverse)
  | _ => none

def splitHost (kind : Kind) : (inBrackets : Bool) → List Char → List Char × List Char
  | _, [] => ([], [])
  | inBrackets, c :: rest =>
    if (c == ':' && !inBrackets) || endsAuthority kind c then ([], c :: rest)
    else
      let inside := if c == '[' then true else if c == ']' then false else inBrackets
      let (host, after) := splitHost kind inside rest
      (c :: host, after)

def port (scheme : List Char) (cs : List Char) : Except Fault (Option Nat × List Char) :=
  let digits := cs.takeWhile Char.isDigit
  let rest := cs.dropWhile Char.isDigit
  let n := digits.foldl (fun n c => n * 10 + (c.toNat - 48)) 0
  if rest.head?.any (fun c => !(c == '/' || c == '\\' || endsPath c)) then .error .invalidPort
  else if 65535 < n then .error .invalidPort
  else if digits.isEmpty ∨ defaultPort scheme = some n then .ok (none, rest)
  else .ok (some n, rest)

def readAuthority (scheme : List Char) (cs : List Char) :
    Except Fault (Authority × List Char) := do
  let kind := Kind.ofScheme scheme
  let (credentials, rest) ←
    match splitCredentials (cs.takeWhile (!endsAuthority kind ·)) with
    | none => .ok ([], cs)
    | some ([], after) =>
      let rest := after ++ cs.dropWhile (!endsAuthority kind ·)
      if after.isEmpty && !rest.isEmpty then .error .emptyHost else .ok ([], rest)
    | some (credentials, after) =>
      .ok (credentials, after ++ cs.dropWhile (!endsAuthority kind ·))
  let username := Escaping.encode Escaping.inUserinfo (credentials.takeWhile (· != ':'))
  let password := Escaping.encode Escaping.inUserinfo ((credentials.dropWhile (· != ':')).drop 1)
  let (hostText, rest) := splitHost kind false rest
  let host ←
    if kind = .other then Host.ofOther hostText
    else if hostText.isEmpty then .error .emptyHost
    else Host.ofWeb hostText
  let (port, rest) ←
    match rest with
    | ':' :: after => if host.isEmpty then .error .emptyHost else port scheme after
    | _ => .ok (none, rest)
  if host.isEmpty && !(username.isEmpty && password.isEmpty) then .error .emptyHost
  else .ok (⟨username, password, host, port⟩, rest)

def withAuthority (scheme : List Char) (cs : List Char) : Except Fault Url :=
  let kind := Kind.ofScheme scheme
  match readAuthority scheme cs with
  | .error e => .error e
  | .ok (authority, []) =>
    if kind = .other then .ok ⟨scheme, some authority, .rooted [], none, none⟩
    else .ok (withPath scheme (some authority) [] [])
  | .ok (authority, c :: rest) =>
    if kind = .other ∧ endsPath c then
      let (query, fragment) := tail kind (c :: rest)
      .ok ⟨scheme, some authority, .rooted [], query, fragment⟩
    else .ok (withPath scheme (some authority) [] (dropSlash kind (c :: rest)))

/-! ### Files -/

def fileScheme : List Char := "file".toList

def fileAuthority (host : Host) : Option Authority := some ⟨[], [], host, none⟩

def fileWithHost (cs : List Char) : Except Fault Url := do
  let isEnd (c : Char) : Bool := isSlash .file c || endsPath c
  let hostText := solid (cs.takeWhile (!isEnd ·))
  if isDrive hostText then .ok (withPath fileScheme (fileAuthority (.name [])) [] cs)
  else
    let host ← if hostText.isEmpty then .ok (Host.name []) else Host.ofWeb hostText
    let rest := cs.dropWhile (!isEnd ·)
    if host.isEmpty ∨ host = .name "localhost".toList then
      .ok (withPath fileScheme (fileAuthority (.name [])) [] rest)
    else
      let rest := dropSlash .file rest
      let host := if (walk .file [] rest).drive then .name [] else host
      .ok (withPath fileScheme (fileAuthority host) [] rest)

def fileFromRoot (base : Option Url) (cs : List Char) : Url :=
  let here := withPath fileScheme (fileAuthority (.name []))
  match base with
  | none => here [] cs
  | some u =>
    if startsWithDrive (solid cs) then here [] cs
    else match u.path.segments? with
      | some (first :: _) =>
        if isPlainDrive first then here [first] cs else withPath fileScheme u.authority [] cs
      | _ => withPath fileScheme u.authority [] cs

def fileReference (base : Option Url) (cs : List Char) : Except Fault Url :=
  let first (cs : List Char) : Option Char := (solid cs).head?
  let afterFirst (cs : List Char) : List Char := (cs.dropWhile isBreak).drop 1
  if (first cs).any (isSlash .file) then
    if (first (afterFirst cs)).any (isSlash .file) then fileWithHost (afterFirst (afterFirst cs))
    else .ok (fileFromRoot base (afterFirst cs))
  else match base with
    | none => .ok (fileFromRoot none cs)
    | some u =>
      match first cs with
      | none => .ok { u with fragment := none }
      | some '#' => .ok { u with fragment := (tail .file (solid cs)).2 }
      | some '?' =>
        .ok { u with query := (tail .file (solid cs)).1, fragment := (tail .file (solid cs)).2 }
      | some _ =>
        if startsWithDrive (solid cs) then .ok (fileFromRoot none cs)
        else
          let above := (u.path.segments?).getD []
          let above := if above.getLast?.any isPlainDrive then above else above.dropLast
          .ok (withPath fileScheme u.authority above cs)

/-! ### Resolving -/

def relative (base : Url) (cs : List Char) : Except Fault Url :=
  let above : List (List Char) := (base.path.segments?).getD []
  match cs with
  | [] => .ok { base with fragment := none }
  | '#' :: _ => .ok { base with fragment := (tail base.kind cs).2 }
  | '?' :: _ =>
    .ok { base with query := (tail base.kind cs).1, fragment := (tail base.kind cs).2 }
  | c :: rest =>
    if c = '/' ∨ c = '\\' then
      match rest with
      | d :: rest' =>
        if d = '/' ∨ d = '\\' then
          if c = '/' ∧ d = '/' then withAuthority base.scheme rest'
          else withAuthority base.scheme (rest'.dropWhile fun e => e == '/' || e == '\\')
        else .ok (withPath base.scheme base.authority [] rest)
      | [] => .ok (withPath base.scheme base.authority [] rest)
    else .ok (withPath base.scheme base.authority above.dropLast cs)

def absolute (base : Option Url) (scheme : List Char) (text : List Char) : Except Fault Url :=
  let cs := solid text
  match Kind.ofScheme scheme with
  | .file => fileReference (base.filter (·.kind == .file)) text
  | .web =>
    let slashes := cs.takeWhile (isSlash .web)
    match base with
    | some u =>
      if slashes.length < 2 ∧ u.scheme = scheme then relative u cs
      else withAuthority scheme (cs.dropWhile (isSlash .web))
    | none => withAuthority scheme (cs.dropWhile (isSlash .web))
  | .other =>
    match cs with
    | '/' :: '/' :: rest => withAuthority scheme rest
    | '/' :: rest => .ok (withPath scheme none [] rest)
    | _ =>
      let (query, fragment) := tail .other (cs.dropWhile (!endsPath ·))
      let text := Escaping.encode Escaping.isPrinting (cs.takeWhile (!endsPath ·))
      .ok ⟨scheme, none, .flat text, query, fragment⟩

def resolve (base : Option Url) (reference : List Char) : Except Fault Url :=
  let text := trimEdges reference
  let cs := solid text
  match scheme? cs with
  | some scheme => absolute base scheme ((text.dropWhile (· != ':')).drop 1)
  | none =>
    match base with
    | none => .error .noBase
    | some u =>
      if cs.head? = some '#' then .ok { u with fragment := (tail u.kind cs).2 }
      else match u.path with
        | .flat _ => .error .flatBase
        | .rooted _ => if u.kind = .file then fileReference (some u) text else relative u cs

def parse (s : String) : Except Fault Url :=
  resolve none s.toList

def join (base : Url) (reference : String) : Except Fault Url :=
  resolve (some base) reference.toList

def ofOrigin (origin basePath : String) : Except Fault Url := do
  let server ← parse origin
  let trimmed :=
    ((basePath.toList.dropWhile (· == '/')).reverse.dropWhile (· == '/')).reverse
  resolve (some server) (if trimmed.isEmpty then ['/'] else '/' :: trimmed ++ ['/'])

end StorageConsole.Url
