import FilterStore.Number.Decimal
import FilterStore.Sql.Fault
import FilterStore.Text.Bytes

/-!
# Where databases are

A database is given by the path of a file.  What starts with `file:` is a *location*: a path, and
behind a question mark options with their values, which say how the file is to be opened.  In a
location a byte can be written by its number behind a percent sign, so that all signs can stand in
names; the byte zero ends the part that it stands in.  What follows a number sign does not count.

A database without a path, and the one of the path `:memory:`, is of its own and is not kept.
-/

namespace FilterStore.Command

open Sql (Fault)

/-- What may be done with a file. -/
inductive Access
  /-- It may be read. -/
  | read
  /-- It may be changed too. -/
  | write
  /-- It may be made where there is none. -/
  | create
  deriving DecidableEq, Repr

/-- Where a database is, and how it is to be opened. -/
structure Location where
  path : String
  access : Access
  /-- Whether it is only in memory. -/
  inMemory : Bool
  /-- Whether nobody is expected to change the file. -/
  settled : Bool
  /-- The file system it is asked of, if it is not the usual one. -/
  system : Option String

namespace Location

/-- The place of a file that is made if it is not there. -/
def ofPath (path : String) : Location where
  path
  access := .create
  inMemory := false
  settled := false
  system := none

/-- Whether a database is of its own and not kept. -/
def isTransient (l : Location) : Bool :=
  l.inMemory || l.path.isEmpty || l.path == ":memory:" || l.system == some "memdb"

/-- Whether a database may not be changed. -/
def isReadOnly (l : Location) : Bool := l.access = .read || (l.settled && !l.isTransient)

/-! ## Reading locations -/

/-- The bytes of a character. -/
def bytesOfChar (c : Char) : List UInt8 := (String.singleton c).toUTF8.toList

/-- The bytes that part of a location stands for. -/
def bytesOf : List Char → List UInt8
  | '%' :: a :: b :: cs =>
    match Number.hexValue? a, Number.hexValue? b with
    | some m, some n => if m + n = 0 then [] else UInt8.ofNat (16 * m + n) :: bytesOf cs
    | _, _ => bytesOfChar '%' ++ bytesOf (a :: b :: cs)
  | c :: cs => bytesOfChar c ++ bytesOf cs
  | [] => []

/-- The text that part of a location stands for. -/
def decoded (cs : List Char) : String := Text.ofBytes (bytesOf cs)

/-- What stands before a character and what stands behind it; if there is none, nothing stands
behind it. -/
def cutAt (c : Char) (cs : List Char) : List Char × List Char :=
  (cs.takeWhile (· != c), (cs.dropWhile (· != c)).drop 1)

/-- Options that have a name, with their values. -/
def optionsOf (cs : List Char) : List (String × String) :=
  (cs.splitOn '&').filterMap fun part =>
    let (name, value) := cutAt '=' part
    let name := decoded name
    if name.isEmpty then none else some (name, decoded value)

/-- Whether a value says yes. -/
def saysYes (value : String) : Bool :=
  match value.toList with
  | c :: cs =>
    if c.isDigit then ((c :: cs).takeWhile Char.isDigit).any (· != '0')
    else ["yes", "true", "on"].any (Text.sameName value)
  | [] => false

/-- A location with an option. -/
def withOption (l : Location) : String × String → Except Fault Location
  | ("mode", "ro") => .ok { l with access := .read, inMemory := false }
  | ("mode", "rw") => .ok { l with access := .write, inMemory := false }
  | ("mode", "rwc") => .ok { l with access := .create, inMemory := false }
  | ("mode", "memory") => .ok { l with access := .write, inMemory := true }
  | ("mode", mode) => .error (.noSuchMode "access" mode)
  | ("cache", mode) =>
    if ["shared", "private"].contains mode then .ok l else .error (.noSuchMode "cache" mode)
  | ("vfs", name) => .ok { l with system := some name }
  | ("immutable", value) => .ok { l with settled := l.settled || saysYes value }
  | _ => .ok l

/-- The file systems there are. -/
def systems : List String := ["unix", "unix-none", "unix-dotfile", "unix-excl", "memdb"]

/-- Fails unless there is the file system that is asked. -/
def checkSystem (l : Location) : Except Fault Unit :=
  match l.system with
  | some name => if systems.contains name then .ok () else .error (.noSuchSystem name)
  | none => .ok ()

/-- The path behind the machine it is on, if one is named, which has to be this one. -/
def withoutMachine : List Char → Except Fault (List Char)
  | '/' :: '/' :: cs =>
    let (machine, path) := cs.span (· != '/')
    if machine.isEmpty || machine == "localhost".toList then .ok path
    else .error (.badAuthority (String.ofList machine))
  | cs => .ok cs

/-- Reads what stands behind `file:`. -/
def ofText (cs : List Char) : Except Fault Location := do
  let (path, options) := cutAt '?' ((← withoutMachine cs).takeWhile (· != '#'))
  let l ← (optionsOf options).foldlM withOption (ofPath (decoded path))
  l.checkSystem
  .ok l

/-- Where the database of a name is. -/
def ofName (name : String) : Except Fault Location :=
  match name.toList with
  | 'f' :: 'i' :: 'l' :: 'e' :: ':' :: cs => ofText cs
  | _ => .ok (ofPath name)

end Location

end FilterStore.Command
