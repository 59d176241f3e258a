import GridAgent.Json

/-!
# Tables of a settings file

A settings file is a tree of tables, filled line by line. A header opens a table, or adds one to a
list of tables, and the lines below it fill that table. Dotted keys reach into tables below it. Each
name is given once and each table has one header at most; what a header opened is not extended by
dotted keys, and what dotted keys made gets no header.
-/

namespace GridAgent.Toml

/-- How a table came to be. -/
inductive Origin where
  /-- It has a header, is an item of a list of tables, or is the whole file. -/
  | header
  /-- It was passed on the way to the table of a header. -/
  | passed
  /-- It was made by a dotted key. -/
  | dotted
  deriving DecidableEq, Repr

/-- What a name stands for. -/
inductive Node where
  /-- A finished value. -/
  | value (value : Json)
  /-- A table. -/
  | table (origin : Origin) (members : List (String × Node))
  /-- A list of tables, of which the last one is still filled. -/
  | series (earlier : List (List (String × Node))) (last : List (String × Node))

/-- The members of a table. -/
abbrev Members : Type := List (String × Node)

/-- Puts a member in place of the one of the same name, or adds it. -/
def put (name : String) (node : Node) : Members → Members
  | [] => [(name, node)]
  | m :: rest => if m.1 = name then (name, node) :: rest else m :: put name node rest

/-- A change of a table of some origin, which may be refused. -/
abbrev Edit : Type := Origin → Members → Option Members

/-- Makes a change in the table at the end of a path and makes tables that are missing on the way.
In a list of tables the way leads into the last one. A dotted key does not lead into a table with a
header. -/
def within (made : Origin) (change : Edit) : List String → Edit
  | [], origin, members => change origin members
  | name :: path, _, members =>
    match members.lookup name with
    | none =>
      (within made change path made []).map fun inner => put name (.table made inner) members
    | some (.value _) => none
    | some (.series earlier last) =>
      (within made change path .header last).map fun inner =>
        put name (.series earlier inner) members
    | some (.table origin inner) =>
      if made = .dotted ∧ origin = .header then none
      else (within made change path origin inner).map fun inner =>
        put name (.table origin inner) members

/-- A name and the path that leads to its table. -/
structure Key where
  /-- Names of the tables on the way. -/
  path : List String
  /-- The last name. -/
  name : String
  deriving DecidableEq, Repr

/-- Gives a name its value. A table made by dotted keys takes values from dotted keys only, and one
of another origin from plain names only. -/
def giveName (dotted : Bool) (name : String) (value : Json) : Edit := fun origin members =>
  if (origin = .dotted) ≠ dotted then none
  else
    match members.lookup name with
    | none => some (put name (.value value) members)
    | some _ => none

/-- Gives a key its value. -/
def give (key : Key) (value : Json) : Edit :=
  within .dotted (giveName (!key.path.isEmpty) key.name value) key.path

/-- Opens the table of a header, which may have been passed before. -/
def openName (name : String) : Edit := fun _ members =>
  match members.lookup name with
  | none => some (put name (.table .header []) members)
  | some (.table .passed inner) => some (put name (.table .header inner) members)
  | some _ => none

/-- Adds a table to a list of tables, which may be new. -/
def appendName (name : String) : Edit := fun _ members =>
  match members.lookup name with
  | none => some (put name (.series [] []) members)
  | some (.series earlier last) => some (put name (.series (earlier ++ [last]) []) members)
  | some _ => none

/-- A settings file, read up to some line. -/
structure Document where
  /-- The members of the whole. -/
  members : Members := []
  /-- Path of the table that the next lines fill. -/
  current : List String := []

namespace Document

/-- Gives a key its value in the table that is filled. -/
def define (d : Document) (key : Key) (value : Json) : Option Document :=
  (within .passed (give key value) d.current .header d.members).map fun members =>
    { d with members }

/-- Opens the table of a header; the next lines fill it. -/
def openTable (d : Document) (key : Key) : Option Document :=
  (within .passed (openName key.name) key.path .header d.members).map fun members =>
    { members, current := key.path ++ [key.name] }

/-- Adds a table to a list of tables; the next lines fill it. -/
def appendTable (d : Document) (key : Key) : Option Document :=
  (within .passed (appendName key.name) key.path .header d.members).map fun members =>
    { members, current := key.path ++ [key.name] }

end Document

mutual

/-- What a name stands for, as JSON. -/
def Node.toJson : Node → Json
  | .value value => value
  | .table _ members => .obj (membersToJson members)
  | .series earlier last => .arr (tablesToJson earlier ++ [.obj (membersToJson last)])

/-- Members as JSON. -/
def membersToJson : List (String × Node) → List (String × Json)
  | [] => []
  | (name, node) :: rest => (name, node.toJson) :: membersToJson rest

/-- Tables as JSON. -/
def tablesToJson : List (List (String × Node)) → List Json
  | [] => []
  | members :: rest => .obj (membersToJson members) :: tablesToJson rest

end

/-- A document as JSON. -/
def Document.toJson (d : Document) : Json := .obj (membersToJson d.members)

/-- A table written in one line, made of its pairs in order. -/
def inlineTable? (pairs : List (Key × Json)) : Option Json :=
  (pairs.foldlM (fun members (pair : Key × Json) => give pair.1 pair.2 .header members) []).map
    fun members => .obj (membersToJson members)

end GridAgent.Toml
