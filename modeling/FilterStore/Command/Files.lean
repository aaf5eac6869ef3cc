import FilterStore.Command.Location
import FilterStore.Dump.File
import FilterStore.Engine.Database

/-!
# Files

The program reads and writes files by their paths, and one of them is a database.  A path is a list
of names; it starts at the root or in the folder the program works in, and both are always there, as
are the folders above and a few others, and a file in which nothing stays.

A file is made where it is written, but its folder is not.  A path with a slash at its end is that
of a folder, except where it is the path of a database.  There, also, a step back in a path undoes
the step before it, whether or not that led anywhere.

An empty file is a database in which there is nothing yet, and the other way round.  Any other file
that is not a database can still be opened as one; it is found out when it is used.
-/

namespace FilterStore.Command

open Engine (Database)

/-- Why a file could not be read or written. -/
inductive PathFault
  | missing
  | notFolder
  | isFolder
  | notText
  deriving DecidableEq, Repr

def PathFault.message : PathFault → String
  | missing => "No such file or directory (os error 2)"
  | notFolder => "Not a directory (os error 20)"
  | isFolder => "Is a directory (os error 21)"
  | notText => "stream did not contain valid UTF-8"

/-- Where a path leads. -/
structure Route where
  /-- Whether it starts at the root. -/
  absolute : Bool
  names : List (List Char)
  deriving DecidableEq, Repr

namespace Route

/-- Where a path leads; slashes in a row are one. -/
def ofPath (path : String) : Route := ⟨path.toList.head? == some '/', pathNames path⟩

/-- The path that leads there. -/
def path (r : Route) : String :=
  (if r.absolute then "/" else "") ++ "/".intercalate (r.names.map String.ofList)

/-- The folder something is in. -/
def parent (r : Route) : Route := { r with names := r.names.dropLast }

/-- Where the beginnings of a path lead. -/
def onTheWay (r : Route) : List Route :=
  (List.range r.names.length).map fun n => { r with names := r.names.take n }

/-- The step back. -/
def back : List Char := ['.', '.']

/-- A step of a route.  A step back undoes the step before it, if there was one; above the root
there is nothing. -/
def step (r : Route) (name : List Char) : Route :=
  if name ≠ back then { r with names := r.names ++ [name] }
  else if r.names.getLast?.all (· == back) then
    if r.absolute then r else { r with names := r.names ++ [back] }
  else r.parent

/-- The route without steps back, but for those at its start. -/
def straight (r : Route) : Route := r.names.foldl step { r with names := [] }

end Route

/-- Whether a path is written as that of a folder. -/
def isFolderPath (path : String) : Bool := path.toList.getLast? == some '/'

/-- What there is under a path. -/
inductive Node
  | folder
  | file (contents : Contents)
  | database (d : Database)

namespace Node

/-- Whether a database has nothing in it. -/
def isEmptyDatabase (d : Database) : Bool := d.objects.isEmpty

/-- What is read from a file. -/
def contents : Node → Contents
  | folder => .binary
  | file c => c
  | database d => if isEmptyDatabase d then .plain "" else .binary

/-- The text in a file. -/
def text : Node → Except PathFault String
  | folder => .error .isFolder
  | node =>
    match node.contents with
    | .plain s => .ok s
    | _ => .error .notText

def isFolder : Node → Bool
  | folder => true
  | _ => false

end Node

/-- What was opened as a database. -/
inductive Opened
  | database (d : Database)
  /-- A file of another kind. -/
  | foreign

/-- The files there are. -/
structure Files where
  nodes : List (Route × Node)

namespace Files

def empty : Files := ⟨[]⟩

/-- What is always where a route leads. -/
def standing? (r : Route) : Option Node :=
  if r.names.all (· == Route.back) then some .folder
  else if r = Route.ofPath "/dev" || r = Route.ofPath "/tmp" then some .folder
  else if r = Route.ofPath "/dev/null" then some (.file (.plain ""))
  else none

/-- What a route leads to. -/
def at? (f : Files) (r : Route) : Option Node := standing? r <|> f.nodes.lookup r

/-- Puts something where a route leads. -/
def put (f : Files) (r : Route) (n : Node) : Files :=
  ⟨(r, n) :: f.nodes.filter fun p => p.1 ≠ r⟩

/-- Whether there is a folder where a route leads. -/
def hasFolder (f : Files) (r : Route) : Bool := (f.at? r).any Node.isFolder

/-- Why there is nothing where a route leads. -/
def absence (f : Files) (r : Route) : PathFault :=
  if r.onTheWay.any fun way => (f.at? way).any fun n => !n.isFolder then .notFolder else .missing

/-- What is read under a path. -/
def node (f : Files) (path : String) : Except PathFault Node :=
  if path.isEmpty then .error .missing
  else
    match f.at? (.ofPath path) with
    | some .folder => .ok .folder
    | some n => if isFolderPath path then .error .notFolder else .ok n
    | none => .error (f.absence (.ofPath path))

/-- The text under a path. -/
def text (f : Files) (path : String) : Except PathFault String := do (← f.node path).text

/-- The contents of what is under a path. -/
def contents (f : Files) (path : String) : Except PathFault Contents := do
  .ok (← f.node path).contents

/-- Writes a file. -/
def write (f : Files) (path : String) (c : Contents) : Except PathFault Files :=
  let route := Route.ofPath path
  match f.at? route with
  | some .folder => .error .isFolder
  | some _ => if isFolderPath path then .error .notFolder else .ok (f.put route (.file c))
  | none =>
    if !f.hasFolder route.parent then .error (f.absence route)
    else if isFolderPath path then .error .isFolder
    else .ok (f.put route (.file c))

/-! ## Databases -/

/-- Where the route of a database leads without its steps back, unless a file is in its way. -/
def straightRoute? (f : Files) (r : Route) : Option Route :=
  let stops := (List.range r.names.length).map fun n =>
    { r with names := r.names.take (n + 1) }.straight
  if stops.any fun stop => f.absence stop = .notFolder then none else some r.straight

/-- Opens a database, which is made if it is not there and may be made. -/
def openDatabase (f : Files) (l : Location) : Option (Opened × Files) :=
  if l.isTransient then some (.database .empty, f)
  else
    match f.straightRoute? (.ofPath l.path) with
    | none => none
    | some route =>
      match f.at? route with
      | some .folder => none
      | some (.database d) => some (.database d, f)
      | some (.file (.plain "")) => some (.database .empty, f)
      | some (.file _) => some (.foreign, f)
      | none =>
        if l.access = .create && f.hasFolder route.parent then
          some (.database .empty, f.put route (.file (.plain "")))
        else none

/-- Keeps a database. -/
def keep (f : Files) (l : Location) (d : Database) : Files :=
  if l.isTransient || l.isReadOnly then f else f.put (Route.ofPath l.path).straight (.database d)

end Files

end FilterStore.Command
