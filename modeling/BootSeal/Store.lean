import BootSeal.Bytes.Basic
import BootSeal.Text.Quoted
/-!
# Stores

A store is a tree of directories and files as it is seen from one of its directories, and two
devices beside it: one that takes everything and holds nothing, and one on which no byte finds
room. A path is walked component by component, so a missing directory, a file used as a directory,
and a directory used as a file are told apart.
-/

namespace BootSeal

inductive FileFault where
  | missing (path : String)
  | isDirectory (path : String)
  | notDirectory (path : String)
  | noSpace
deriving DecidableEq, Repr

/-- The text of the reason, with the number that operating systems give it. -/
def FileFault.message : FileFault → String
  | .missing path => "[Errno 2] No such file or directory: " ++ Quoted.quote path
  | .isDirectory path => "[Errno 21] Is a directory: " ++ Quoted.quote path
  | .notDirectory path => "[Errno 20] Not a directory: " ++ Quoted.quote path
  | .noSpace => "[Errno 28] No space left on device"

/-- The way to a file or a directory: names from the directory in use on, or from the root of the
tree if the first name is a slash. Two dots lead out of the directory in use. -/
abbrev Route := List String

def Route.isAbove (route : Route) : Bool := route.all (· == "..")

def Route.parent (route : Route) : Route :=
  if route.isAbove then route ++ [".."]
  else if route = ["/"] then route
  else route.dropLast

/-- A tree of directories and files. The directory in use, those above it, and the root are always
there. -/
structure Store where
  files : List (Route × Bytes) := []
  directories : List Route := []
deriving DecidableEq, Repr

inductive Place where
  | directory (route : Route)
  | file (route : Route) (content : Bytes)
  /-- Nothing yet, in a directory that is there. -/
  | vacant (route : Route)
  /-- The device that takes everything and holds nothing. -/
  | sink
  /-- The device on which no byte finds room. -/
  | full
deriving Repr

namespace Store

def file? (s : Store) (route : Route) : Option Bytes := s.files.lookup route

def isDirectory (s : Store) (route : Route) : Bool :=
  route.isAbove || route == ["/"] || s.directories.contains route

/-- The components of a path; empty ones do not count, and a slash in front is one. -/
def components (path : String) : List String :=
  (if path.startsWith "/" then ["/"] else [])
    ++ ((path.toList.splitOn '/').filter (· ≠ [])).map String.ofList

def walk (s : Store) (path : String) (route : Route) : List String → Except FileFault Place
  | [] => .ok (.directory route)
  | name :: rest =>
      if name = "." then walk s path route rest
      else if name = ".." then walk s path route.parent rest
      else
        let next := route ++ [name]
        if s.isDirectory next then walk s path next rest
        else
          match s.file? next, rest with
          | some content, [] => .ok (.file next content)
          | some _, _ :: _ => .error (.notDirectory path)
          | none, [] => .ok (.vacant next)
          | none, _ :: _ => .error (.missing path)

/-- What a path leads to, whether or not the path ends in a slash. -/
def locate (s : Store) (path : String) : Except FileFault Place :=
  if path = "" then .error (.missing path)
  else if path = "/dev/null" then .ok .sink
  else if path = "/dev/full" then .ok .full
  else s.walk path [] (components path)

/-- A path that ends in a slash can only mean a directory. -/
def meansDirectory (path : String) : Bool := path.endsWith "/"

/-- The content of the file at a path. The devices give nothing. -/
def read (s : Store) (path : String) : Except FileFault Bytes :=
  match s.locate path with
  | .error e => .error e
  | .ok (.directory _) => .error (.isDirectory path)
  | .ok (.file _ content) =>
      if meansDirectory path then .error (.notDirectory path) else .ok content
  | .ok (.vacant _) => .error (.missing path)
  | .ok .sink => .ok []
  | .ok .full => .ok []

def putFile (s : Store) (route : Route) (content : Bytes) : Store :=
  if (s.file? route).isSome then
    { s with files := s.files.map fun f => if f.1 = route then (route, content) else f }
  else { s with files := s.files ++ [(route, content)] }

inductive Target where
  | regular (route : Route)
  | sink
  | full
deriving DecidableEq, Repr

/-- The regular file at a route, for writing through a path. -/
def fileTarget (path : String) (route : Route) : Except FileFault Target :=
  if meansDirectory path then .error (.isDirectory path) else .ok (.regular route)

/-- Opens a path for writing, which fails before anything is changed. -/
def target (s : Store) (path : String) : Except FileFault Target :=
  match s.locate path with
  | .error e => .error e
  | .ok (.directory _) => .error (.isDirectory path)
  | .ok (.file route _) => fileTarget path route
  | .ok (.vacant route) => fileTarget path route
  | .ok .sink => .ok .sink
  | .ok .full => .ok .full

def write (s : Store) (path : String) (content : Bytes) : Except FileFault Store :=
  match s.target path with
  | .error e => .error e
  | .ok (.regular route) => .ok (s.putFile route content)
  | .ok .sink => .ok s
  | .ok .full => if content = [] then .ok s else .error .noSpace

/-- Adds a directory and those above it. -/
def addDirectories (s : Store) (route : Route) : Store :=
  (List.range route.length).foldl
    (fun s n =>
      let d := route.take (n + 1)
      if s.isDirectory d then s else { s with directories := s.directories ++ [d] })
    s

def place (s : Store) (path : String) (content : Bytes) : Store :=
  let route := components path
  (s.addDirectories route.dropLast).putFile route content

def paths (s : Store) : List String :=
  (s.files.map fun f => "/".intercalate f.1).mergeSort fun a b => !(decide (b < a))

end Store

end BootSeal
