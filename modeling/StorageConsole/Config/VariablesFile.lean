import StorageConsole.Config.Variables
import StorageConsole.Text.Blank
import StorageConsole.Text.LetterOrDigit
import StorageConsole.Text.Pieces

/-! Files of variables: a `NAME=value` a line, up to the first line that is malformed. -/

namespace StorageConsole.Config.VariablesFile

open Text (isBlank)

inductive Place where
  | plain
  | blank
  | escaped
  | single
  | singleEscaped
  | double
  | doubleEscaped
  deriving DecidableEq, Repr

def outside (c : Char) : Place :=
  if c = '\\' then .escaped else if c = '"' then .double else if c = '\'' then .single else .plain

def Place.next : Place → Char → Place
  | .blank, c => outside c
  | .escaped, _ => .plain
  | .plain, c => if isBlank c ∧ c ≠ '\n' ∧ c ≠ '\r' then .blank else outside c
  | .double, c => if c = '\\' then .doubleEscaped else if c = '"' then .plain else .double
  | .doubleEscaped, _ => .double
  | .single, c => if c = '\\' then .singleEscaped else if c = '\'' then .plain else .single
  | .singleEscaped, _ => .single

def beforeComment : Place → List Char → List Char × Option Place
  | place, [] => ([], some place)
  | place, c :: rest =>
    if place = .blank ∧ c = '#' then ([], none)
    else
      let (kept, last) := beforeComment (place.next c) rest
      (c :: kept, last)

def physicalLines (cs : List Char) : List (List Char) :=
  let ps := Text.pieces (· == '\n') cs
  ps.dropLast.map (· ++ ['\n']) ++ (ps.getLast?.filter (!·.isEmpty)).toList

def dropLineEnd (cs : List Char) : List Char :=
  match cs.reverse with
  | '\n' :: '\r' :: rest => rest.reverse
  | '\n' :: rest => rest.reverse
  | _ => cs

def logicalLines : (started : List Char) → Place → List (List Char) → List (Option (List Char))
  | _, place, [] => if place = .plain then [] else [none]
  | started, place, line :: more =>
    if ((started ++ line).dropWhile isBlank).head? = some '#' then
      some [] :: logicalLines [] .plain more
    else
      match beforeComment place line with
      | (kept, none) => some (started ++ kept) :: logicalLines [] .plain more
      | (_, some .plain) => some (dropLineEnd (started ++ line)) :: logicalLines [] .plain more
      | (_, some place) => logicalLines (started ++ line) place more

inductive Mode where
  | plain
  | ended
  | single
  | double
  deriving DecidableEq, Repr

structure Draft where
  mode : Mode := .plain
  escaped : Bool := false
  reference : Option (List Char × Bool) := none
  output : List Char := []

def unescape? (c : Char) : Option Char :=
  if ['\\', '\'', '"', '$', ' '].contains c then some c
  else if c = 'n' then some '\n'
  else none

def Draft.plain (d : Draft) (c : Char) : Draft :=
  if c = '$' then { d with reference := some ([], false) }
  else if d.mode = .double then
    if c = '"' then { d with mode := .plain }
    else if c = '\\' then { d with escaped := true }
    else { d with output := d.output ++ [c] }
  else if c = '\'' then { d with mode := .single }
  else if c = '"' then { d with mode := .double }
  else if c = '\\' then { d with escaped := true }
  else if c = ' ' ∨ c = '\t' then { d with mode := .ended }
  else { d with output := d.output ++ [c] }

def Draft.refer (d : Draft) (value : String → String) (name : List Char) : Draft :=
  { d with reference := none, output := d.output ++ (value (String.ofList name)).toList }

def Draft.name (d : Draft) (value : String → String) (name : List Char) (braces : Bool)
    (c : Char) : Draft :=
  if Text.isLetterOrDigit c then { d with reference := some (name ++ [c], braces) }
  else if braces then
    if c = '\x7d' then d.refer value name else { d with reference := some (name ++ [c], true) }
  else if c = '\x7b' ∧ name = [] then { d with reference := some ([], true) }
  else
    let d := d.refer value name
    if c = '$' then { d with reference := some ([], false) }
    else { d with output := d.output ++ [c] }

def readValue (value : String → String) : Draft → List Char → Option Draft
  | d, [] => some d
  | d, c :: rest =>
    if d.mode = .ended then
      if c = ' ' ∨ c = '\t' then readValue value d rest
      else if c = '#' then some d
      else none
    else if d.escaped then
      match unescape? c with
      | some e => readValue value { d with escaped := false, output := d.output ++ [e] } rest
      | none => none
    else if d.mode = .single then
      if c = '\'' then readValue value { d with mode := .plain } rest
      else readValue value { d with output := d.output ++ [c] } rest
    else match d.reference with
      | some (name, braces) => readValue value (d.name value name braces c) rest
      | none => readValue value (d.plain c) rest

def value? (value : String → String) (cs : List Char) : Option String :=
  match readValue value {} cs with
  | none => none
  | some d =>
    if d.mode = .single ∨ d.mode = .double then none
    else match d.reference with
      | some (_, true) => none
      | some (name, false) => some (String.ofList (d.refer value name).output)
      | none => some (String.ofList d.output)

def isNameStart (c : Char) : Bool := c.isAlpha || c == '_'

def isNameChar (c : Char) : Bool := c.isAlphanum || c == '_' || c == '.'

def name? (cs : List Char) : Option (List Char × List Char) :=
  if cs.head?.any isNameStart then
    some (cs.takeWhile isNameChar, (cs.dropWhile isNameChar).dropWhile isBlank)
  else none

def assigned? (cs : List Char) : Option (List Char × List Char) :=
  match name? cs with
  | some (name, '=' :: rest) => some (name, rest.dropWhile isBlank)
  | some (name, rest) =>
    if name = "export".toList then
      match name? rest with
      | some (name, '=' :: rest) => some (name, rest.dropWhile isBlank)
      | _ => none
    else none
  | none => none

inductive Line where
  | nothing
  | pair (name value : String)
  | malformed
  deriving DecidableEq, Repr

def isBare (cs : List Char) : Bool := cs.isEmpty || cs.head? == some '#'

def readLine (value : String → String) (cs : List Char) : Line :=
  let cs := Text.trimChars cs
  if isBare cs then .nothing
  else match assigned? cs with
    | none => .malformed
    | some (name, rest) =>
      if isBare rest then .pair (String.ofList name) ""
      else match value? value rest with
        | some v => .pair (String.ofList name) v
        | none => .malformed

def readLines (vars : Variables) : (earlier : Variables) → List (Option (List Char)) → Variables
  | _, [] => []
  | _, none :: _ => []
  | earlier, some line :: more =>
    -- a reference stands for a variable that is set, else for its first value in the file
    let value (name : String) : String := ((vars.setDefaults earlier).get? name).getD ""
    match readLine value line with
    | .malformed => []
    | .nothing => readLines vars earlier more
    | .pair name v => (name, v) :: readLines vars (earlier ++ [(name, v)]) more

def read (vars : Variables) (text : String) : Variables :=
  let cs := match text.toList with
    | '\uFEFF' :: rest => rest
    | cs => cs
  readLines vars [] (logicalLines [] .plain (physicalLines cs))

end StorageConsole.Config.VariablesFile
