import CodeTwins.Toml.Scalar

/-!
# Reading TOML documents

A document is read line by line. Each line opens a table, adds a table to a list of tables, or sets a
field. A table that has been opened cannot be opened again; one that was made on the way to a field
cannot be opened after the next heading; and what a value holds cannot be added to from outside. A
document that breaks a rule is refused as a whole.
-/
namespace CodeTwins.Toml

abbrev Key := List String

/-- Changes the fields of the table that a key leads to, which is made if it is not there. A key may
lead through the last table of a list, where that is allowed. -/
def updateTable (throughLists : Bool) (change : Fields → Option Fields) :
    Key → Fields → Option Fields
  | [], fields => change fields
  | k :: ks, fields =>
    match field? k fields with
    | none => (updateTable throughLists change ks []).map fun t => setField k (.table t) fields
    | some (.table t) =>
      (updateTable throughLists change ks t).map fun t => setField k (.table t) fields
    | some (.array items) =>
      match throughLists, items.getLast? with
      | true, some (.table t) =>
        (updateTable throughLists change ks t).map fun t =>
          setField k (.array (items.dropLast ++ [.table t])) fields
      | _, _ => none
    | some _ => none

/-- Sets a field that must be new. -/
def addField (name : String) (v : Value) (fields : Fields) : Option Fields :=
  match field? name fields with
  | none => some (fields ++ [(name, v)])
  | some _ => none

/-- Adds an empty table to a list of tables, which is made if it is not there. -/
def addTable (name : String) (fields : Fields) : Option Fields :=
  match field? name fields with
  | none => some (fields ++ [(name, .array [.table []])])
  | some (.array items) => some (setField name (.array (items ++ [.table []])) fields)
  | some _ => none

def reaches (keys : List Key) (key : Key) : Bool :=
  keys.any (·.isPrefixOf key)

def isNest : Value → Bool
  | .table _ => true
  | .array _ => true
  | _ => false

/-! ## Keys -/

/-- Whether a key may hold a character without quotes. -/
def isBareKeyChar (c : Char) : Bool :=
  c.isAlphanum || c = '-' || c = '_'

def keyPart : List Char → Taken String
  | '"' :: cs => (basic cs).map fun (s, rest) => (String.ofList s, rest)
  | '\'' :: cs => (literal cs).map fun (s, rest) => (String.ofList s, rest)
  | cs =>
    let name := cs.takeWhile isBareKeyChar
    if name.isEmpty then none else some (String.ofList name, cs.dropWhile isBareKeyChar)

/-- The names of a key, with points between them, and the rest without blanks before it. -/
def key : Nat → List Char → Taken Key
  | 0, _ => none
  | fuel + 1, cs =>
    match keyPart cs with
    | none => none
    | some (name, rest) =>
      match rest.dropWhile isBlank with
      | '.' :: rest =>
        (key fuel (rest.dropWhile isBlank)).map fun (names, rest) => (name :: names, rest)
      | rest => some ([name], rest)

/-! ## Values -/

def skipComment : List Char → Option (List Char)
  | '#' :: cs =>
    if (cs.takeWhile (· ≠ '\n')).any isControl then none else some (cs.dropWhile (· ≠ '\n'))
  | cs => some cs

/-- Skips blanks, newlines and comments. -/
def skipSpace : Nat → List Char → Option (List Char)
  | 0, cs => some cs
  | fuel + 1, cs =>
    match cs.dropWhile fun c => isBlank c || c = '\n' with
    | '#' :: rest => (skipComment ('#' :: rest)).bind (skipSpace fuel)
    | rest => some rest

mutual

def value : Nat → List Char → Taken Value
  | 0, _ => none
  | fuel + 1, cs =>
    match cs with
    | '"' :: _ => (string cs).map fun (s, rest) => (.str (String.ofList s), rest)
    | '\'' :: _ => (string cs).map fun (s, rest) => (.str (String.ofList s), rest)
    | 't' :: 'r' :: 'u' :: 'e' :: rest => some (.bool true, rest)
    | 'f' :: 'a' :: 'l' :: 's' :: 'e' :: rest => some (.bool false, rest)
    | '[' :: rest =>
      ((skipSpace fuel rest).bind (items fuel [])).map fun (vs, rest) => (.array vs, rest)
    | '{' :: rest =>
      match rest.dropWhile isBlank with
      | '}' :: rest => some (.table [], rest)
      | rest => (inlineFields fuel [] [] rest).map fun (fs, rest) => (.table fs, rest)
    | _ => plainScalar cs

/-- The items of a list up to its closing bracket, after those already read. A comma may follow the
last. -/
def items : Nat → List Value → List Char → Taken (List Value)
  | 0, _, _ => none
  | fuel + 1, done, cs =>
    match cs with
    | ']' :: rest => some (done, rest)
    | _ =>
      match value fuel cs with
      | none => none
      | some (v, rest) =>
        match skipSpace fuel rest with
        | some (']' :: rest) => some (done ++ [v], rest)
        | some (',' :: rest) => (skipSpace fuel rest).bind (items fuel (done ++ [v]))
        | _ => none

def keyValue : Nat → List Char → Taken (Key × Value)
  | 0, _ => none
  | fuel + 1, cs =>
    match key fuel cs with
    | some (names, '=' :: rest) =>
      (value fuel (rest.dropWhile isBlank)).map fun (v, rest) => ((names, v), rest)
    | _ => none

/-- The fields of a table on one line up to its closing brace, after those already read, of which
some cannot be added to. -/
def inlineFields : Nat → Fields → List Key → List Char → Taken Fields
  | 0, _, _, _ => none
  | fuel + 1, done, closed, cs =>
    match keyValue fuel cs with
    | none => none
    | some ((names, v), rest) =>
      if reaches closed names then none
      else
        match updateTable false (addField (names.getLastD "") v) names.dropLast done with
        | none => none
        | some done =>
          match rest.dropWhile isBlank with
          | '}' :: rest => some (done, rest)
          | ',' :: rest =>
            inlineFields fuel done (if isNest v then names :: closed else closed)
              (rest.dropWhile isBlank)
          | _ => none

end

/-! ## Documents -/

/-- What has been read of a document: its fields, the tables that cannot be opened, those that
cannot be opened after the next heading, what cannot be added to, and the present heading. -/
structure Draft where
  fields : Fields := []
  opened : List Key := []
  passed : List Key := []
  closed : List Key := []
  heading : Key := []

namespace Draft

/-- Under a new heading, the tables passed on the way to fields count as opened. -/
def turn (d : Draft) : Draft :=
  { d with opened := d.passed ++ d.opened, passed := [] }

def openTable (d : Draft) (k : Key) : Option Draft :=
  if d.opened.contains k || reaches d.closed k then none
  else
    (updateTable true some k d.fields).map fun fields =>
      { d with fields, opened := k :: d.opened, heading := k }

/-- Adds a table to a list of tables. What was said of the table before it does not hold for it. -/
def openListItem (d : Draft) (k : Key) : Option Draft :=
  if reaches d.closed k then none
  else
    (updateTable true (addTable (k.getLastD "")) k.dropLast d.fields).map fun fields =>
      { d with
        fields
        opened := k :: d.opened.filter (!k.isPrefixOf ·)
        closed := d.closed.filter (!k.isPrefixOf ·)
        heading := k }

def tablesTo (heading names : Key) : List Key :=
  (List.range names.length).tail.map fun i => heading ++ names.take i

def set (d : Draft) (names : Key) (v : Value) : Option Draft :=
  let way := tablesTo d.heading names
  let table := d.heading ++ names.dropLast
  if way.any d.opened.contains || reaches d.closed table then none
  else
    (updateTable true (addField (names.getLastD "") v) table d.fields).map fun fields =>
      { d with
        fields
        passed := way ++ d.passed
        closed := if isNest v then (d.heading ++ names) :: d.closed else d.closed }

def statement (d : Draft) (fuel : Nat) (cs : List Char) : Taken Draft :=
  match cs with
  | '[' :: '[' :: rest =>
    match key fuel (rest.dropWhile isBlank) with
    | some (k, ']' :: ']' :: rest) => (d.turn.openListItem k).map (·, rest)
    | _ => none
  | '[' :: rest =>
    match key fuel (rest.dropWhile isBlank) with
    | some (k, ']' :: rest) => (d.turn.openTable k).map (·, rest)
    | _ => none
  | '#' :: _ => some (d, cs)
  | _ =>
    match keyValue fuel cs with
    | some ((names, v), rest) => (d.set names v).map (·, rest)
    | none => none

def lines : Nat → Draft → List Char → Option Draft
  | 0, _, _ => none
  | fuel + 1, d, cs =>
    match cs.dropWhile isBlank with
    | [] => some d
    | '\n' :: rest => lines fuel d rest
    | rest =>
      match d.statement fuel rest with
      | none => none
      | some (d, rest) =>
        match skipComment (rest.dropWhile isBlank) with
        | some [] => some d
        | some ('\n' :: rest) => lines fuel d rest
        | _ => none

end Draft

/-- A carriage return before a newline does not count. -/
def plainNewlines : List Char → List Char
  | [] => []
  | '\r' :: '\n' :: cs => '\n' :: plainNewlines cs
  | c :: cs => c :: plainNewlines cs

def read (text : List Char) : Option Fields :=
  let cs := plainNewlines text
  (Draft.lines (2 * cs.length + 2) {} cs).map (·.fields)

end CodeTwins.Toml
