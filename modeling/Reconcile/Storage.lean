import Reconcile.Text.Lines
import Reconcile.Text.Quoted
import Reconcile.Text.Utf8

/-!
# Stored files

A location is a normalised path. What stands there is either absent, a directory,
or a file of bytes; reading it as a text decodes UTF-8 and unifies the ends of
lines.
-/

namespace Reconcile

/-- A path without empty or `.` segments. `root` is empty for a relative one. -/
structure Location where
  root : String
  segments : List String
deriving DecidableEq, Inhabited

namespace Location

/-- The location that a path names. Exactly two slashes at the front are kept. -/
def ofPath (path : String) : Location :=
  let slashes := (path.toList.takeWhile (· = '/')).length
  { root := if slashes = 0 then "" else if slashes = 2 then "//" else "/"
    segments := (path.splitOn "/").filter fun s => s ≠ "" && s ≠ "." }

/-- The path of a location. -/
def path (l : Location) : String :=
  if l.root = "" && l.segments.isEmpty then "."
  else l.root ++ "/".intercalate l.segments

/-- The home directories of users, by their names; the one of the user who runs the
program goes without a name. -/
abbrev Homes := String → Option Location

/-- The location with the home directory put in for a leading `~` and the name of
a user after it, unless there is no such home. -/
def expandHome? (l : Location) (homes : Homes) : Option Location :=
  match l.root, l.segments with
  | "", first :: rest =>
    match first.toList with
    | '~' :: user => (homes (String.ofList user)).map fun home =>
      { home with segments := home.segments ++ rest }
    | _ => some l
  | _, _ => some l

end Location

/-- The wording for a user without a home directory. -/
def homelessMessage : String := "Could not determine home directory."

/-- What stands at a location. -/
inductive FileState
  | absent
  | directory
  /-- An earlier segment of the path is a file. -/
  | belowFile
  /-- The path, or a segment of it, has too many bytes. -/
  | tooLong
  | file (bytes : List UInt8)
deriving DecidableEq, Inhabited

/-- Why a location cannot be read as a text. -/
inductive ReadFailure
  | absent
  | directory
  | belowFile
  | tooLong
  | undecodable (refusal : Utf8.Refusal)
deriving DecidableEq

/-- The wording of a decoder's refusal. -/
def Utf8.Refusal.message (r : Utf8.Refusal) : String :=
  if r.length = 1 then
    "'utf-8' codec can't decode byte 0x" ++ String.ofList (Text.hexDigits 2 r.byte.toNat) ++
      s!" in position {r.offset}: {r.reason.message}"
  else
    s!"'utf-8' codec can't decode bytes in position {r.offset}-{r.offset + r.length - 1}: " ++
      r.reason.message

/-- The wording of a failure to read `path`. -/
def ReadFailure.message (path : String) : ReadFailure → String
  | .absent => s!"[Errno 2] No such file or directory: {Text.quote path}"
  | .directory => s!"[Errno 21] Is a directory: {Text.quote path}"
  | .belowFile => s!"[Errno 20] Not a directory: {Text.quote path}"
  | .tooLong => s!"[Errno 36] File name too long: {Text.quote path}"
  | .undecodable refusal => refusal.message

/-- The text of a file, every end of line a line feed. -/
def FileState.readText : FileState → Except ReadFailure (List Char)
  | .absent => .error .absent
  | .directory => .error .directory
  | .belowFile => .error .belowFile
  | .tooLong => .error .tooLong
  | .file bytes => ((Utf8.decode bytes).map Text.unifyLines).mapError .undecodable

/-- Whether a regular file stands there. -/
def FileState.isFile : FileState → Bool
  | .file _ => true
  | _ => false

/-- What a program finds where it runs: home directories, and the state of every
location. -/
structure Storage where
  homes : Location.Homes
  state : Location → FileState

namespace Storage

/-- The state of the path that `segments` name from the top, in a tree whose files
have the paths `files`. Every path on the way to a file is a directory. -/
def stateAt (files : List (List String × FileState)) (segments : List String) : FileState :=
  match files.lookup segments with
  | some state => state
  | none =>
    if segments.isEmpty || files.any (fun f => f.2 ≠ .absent && segments.isPrefixOf f.1) then
      .directory
    else .absent

/-- How many bytes a segment of a path may have. -/
def maxSegmentSize : Nat := 255

/-- How many bytes a path may have. -/
def maxPathSize : Nat := 4095

/-- The state of the path that `segments` name from the directory `here`; two
dots lead to the directory above. -/
def walk (files : List (List String × FileState)) (here : List String) : List String → FileState
  | [] => stateAt files here
  | segment :: rest =>
    match stateAt files here with
    | .directory =>
      if maxSegmentSize < segment.utf8ByteSize then .tooLong
      else walk files (if segment = ".." then here.dropLast else here ++ [segment]) rest
    | .file _ => .belowFile
    | state => state

/-- The storage of some files in the home directory, which is also where the
program runs, and of the files of the system elsewhere. `others` are the home
directories of other users. -/
def ofFiles (home : Location) (others : List (String × Location))
    (system files : List (List String × FileState)) : Storage where
  homes user := if user = "" then some home else others.lookup user
  state l :=
    let tree := (home.segments, .directory) :: files.map (fun f => (home.segments ++ f.1, f.2)) ++
      system
    if maxPathSize < l.path.utf8ByteSize then .tooLong
    else walk tree [] (if l.root = "" then home.segments ++ l.segments else l.segments)

end Storage

end Reconcile
