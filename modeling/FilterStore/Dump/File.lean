import FilterStore.Dump.Document
import FilterStore.Text.Letter

/-!
# Files of dump documents

A document is written as text, compressed when the name of its file ends in `.gz`.  A file is
modelled by what was written into it, so that only a file that was compressed can be read from under
such a name.
-/

namespace FilterStore

/-- What a file holds: a text, a text in compressed form, or what is no text at all. -/
inductive Contents
  | plain (text : String)
  | compressed (text : String)
  | binary
  deriving DecidableEq, Repr

/-- Why a document could not be read from a file. -/
inductive FileFault
  | json (fault : Json.Fault)
  /-- What should be compressed is not. -/
  | compression
  deriving DecidableEq, Repr

/-- The names a path is made of, without those that mean "here". -/
def pathNames (path : String) : List (List Char) :=
  (path.toList.splitOn '/').filter fun name => name != [] && name != ['.']

/-- What stands behind the last dot of a name, if something stands before that dot. -/
def extension? (name : List Char) : Option (List Char) :=
  let behind := name.reverse.takeWhile (· != '.')
  let before := name.reverse.dropWhile (· != '.')
  match before with
  | [] => none
  | _ :: stem => if stem.isEmpty then none else some behind.reverse

/-- Whether a path names a compressed document. -/
def isGzipPath (path : String) : Bool :=
  match (pathNames path).getLast? with
  | none => false
  | some name =>
    if name == ['.', '.'] then false
    else
      match extension? name with
      | some e => Text.sameName (String.ofList e) "gz"
      | none => false

namespace Document

/-- What is written for a document under a path. -/
def contents (d : Document) (path : String) : Contents :=
  if isGzipPath path then .compressed d.text else .plain d.text

/-- Reads a document from the contents of a file. -/
def load (path : String) (contents : Contents) : Except FileFault Document :=
  match isGzipPath path, contents with
  | true, .compressed s | false, .plain s =>
    match parse s with
    | .ok d => .ok d
    | .error fault => .error (.json fault)
  | true, _ => .error .compression
  | false, _ => .error (.json .malformed)

end Document

end FilterStore
