import DecoratorGraph.Record
/-!
# JSON

Values with integers only, which is all that is written here, and their text, compact on one
line or indented by two blanks. The members of an object are written in the order of their
names.
-/

namespace DecoratorGraph

inductive Json where
  | null
  | number (n : Nat)
  | string (s : String)
  | array (items : List Json)
  | object (members : List (String × Json))

namespace Json

def hexDigit (n : Nat) : Char := Nat.digitChar n

def character (c : Char) : List Char :=
  if c = '"' then ['\\', '"']
  else if c = '\\' then ['\\', '\\']
  else if c = '\x08' then ['\\', 'b']
  else if c = '\x0c' then ['\\', 'f']
  else if c = '\n' then ['\\', 'n']
  else if c = '\r' then ['\\', 'r']
  else if c = '\t' then ['\\', 't']
  else if c.toNat < 0x20 then
    ['\\', 'u', '0', '0', hexDigit (c.toNat / 16), hexDigit (c.toNat % 16)]
  else [c]

def quoted (s : String) : List Char := '"' :: s.toList.flatMap character ++ ['"']

/-- How a value is laid out: on one line, or with every item on a line of its own. -/
inductive Layout where
  | compact
  | indented
  deriving DecidableEq, Repr

def Layout.newLine (depth : Nat) : Layout → List Char
  | .compact => []
  | .indented => '\n' :: List.replicate (2 * depth) ' '

def Layout.colon : Layout → List Char
  | .compact => [':']
  | .indented => [':', ' ']

/-- The items of a list in brackets; an empty list has nothing between them. -/
def enclosed (layout : Layout) (depth : Nat) (opening closing : Char) (items : List (List Char)) :
    List Char :=
  match items with
  | [] => [opening, closing]
  | _ =>
    opening :: layout.newLine (depth + 1) ++
      Text.join (',' :: layout.newLine (depth + 1)) items ++ layout.newLine depth ++ [closing]

mutual

def render (layout : Layout) (depth : Nat) : Json → List Char
  | .null => "null".toList
  | .number n => Text.decimal n
  | .string s => quoted s
  | .array items => enclosed layout depth '[' ']' (renderItems layout (depth + 1) items)
  | .object members =>
    enclosed layout depth '\x7b' '\x7d' (renderMembers layout (depth + 1) members)

def renderItems (layout : Layout) (depth : Nat) : List Json → List (List Char)
  | [] => []
  | item :: items => render layout depth item :: renderItems layout depth items

def renderMembers (layout : Layout) (depth : Nat) : List (String × Json) → List (List Char)
  | [] => []
  | (name, value) :: members =>
    (quoted name ++ layout.colon ++ render layout depth value) ::
      renderMembers layout depth members

end

def text (layout : Layout) (j : Json) : String := String.ofList (render layout 0 j)

def strings (xs : List String) : Json := .array (xs.map .string)

end Json

namespace Record

/-- The JSON member of a category, left out if the category is absent. -/
def categoryMember (r : Record) (c : Category) : List (String × Json) :=
  ((r.dependencies.get? c).map fun entries => (c.key, Json.strings entries)).toList

/-- A record as JSON, with its members in the order of their names. -/
def toJson (r : Record) : Json :=
  .object (r.categoryMember .directives ++ [("file", .string r.file.text),
    ("name", .string r.name)] ++ r.categoryMember .providers ++ r.categoryMember .templateUrl)

/-- How many different places a list of paths names. -/
def countPlaces : List Path → Nat
  | [] => 0
  | p :: rest => if rest.any p.same then countPlaces rest else countPlaces rest + 1

/-- The document of a list of records: how many records and files there are, and the
records. -/
def document (records : List Record) : Json :=
  .object [("meta", .object [("files", .number (countPlaces (records.map file))),
    ("records", .number records.length)]), ("records", .array (records.map toJson))]

def documentText (layout : Json.Layout) (records : List Record) : String :=
  (document records).text layout

end Record

end DecoratorGraph
