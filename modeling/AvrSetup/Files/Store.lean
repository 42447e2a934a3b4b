import AvrSetup.Files.Basic
import AvrSetup.SortedMap
import AvrSetup.Text.Blank

/-!
# File stores

A file store holds files and names of folders by their places, which are lists of names from
the root. A file has a text, unless what is in it is none. Every operation on files is a function
on stores. A path is followed name by name, and each name but the last has to lead to a folder.
-/

namespace AvrSetup

/-- Where a file or a folder is: the names on the way from the root. -/
abbrev Place := List String

/-- A path to a place, from the root. -/
def Place.path (place : Place) : String := "/" ++ String.intercalate "/" place

/-- The names in a path, which are empty where slashes meet and at its ends. -/
def pathNames (path : String) : List String := (path.toList.splitOn '/').map .ofList

/-- The most bytes in a name. -/
def nameLimit : Nat := 255

/-- The most bytes in a path that files and folders are made at. -/
def pathLimit : Nat := 4095

/-- Files and folders. -/
structure FileStore where
  /-- The place that paths begin at. -/
  workingFolder : Place
  /-- The files, each with its text if it has one. -/
  files : SortedMap Place (Option String)
  /-- The folders other than the root. -/
  folders : SortedSet Place
  /-- The present moment. -/
  moment : Moment
  deriving DecidableEq

namespace FileStore

/-- Whether a folder is at a place. -/
def isFolder (store : FileStore) (place : Place) : Bool :=
  place.isEmpty || store.folders.contains place

/-- Whether anything is at a place. -/
def has (store : FileStore) (place : Place) : Bool :=
  store.isFolder place || store.files.contains place

/-- The place that a path begins at. -/
def start (store : FileStore) (path : String) : Place :=
  if path.toList.head? = some '/' then [] else store.workingFolder

/-- The place that a name leads to. -/
def step (store : FileStore) (place : Place) (name : String) : Except FileFailure Place :=
  if !store.isFolder place then .error .notFolder
  else if name = "" ∨ name = "." then .ok place
  else if name = ".." then .ok place.dropLast
  else if nameLimit < name.utf8ByteSize then .error .nameTooLong
  else if store.has (place ++ [name]) then .ok (place ++ [name])
  else .error .notFound

/-- The place that a list of names leads to. -/
def walk (store : FileStore) (place : Place) (names : List String) : Except FileFailure Place :=
  names.foldlM store.step place

/-- The place that a path leads to. -/
def placeOf (store : FileStore) (path : String) : Except FileFailure Place :=
  store.walk (store.start path) (pathNames path)

/-- The text of a file. -/
def read (store : FileStore) (path : String) : Except FileFailure String :=
  if path = "" then .error .notFound
  else do
    let place ← store.placeOf path
    match store.files.get? place with
    | some (some text) => .ok text
    | some none => .error .noText
    | none => .error .isFolder

/-- Whether a path leads to a file. -/
def isFile (store : FileStore) (path : String) : Bool :=
  match store.placeOf path with
  | .ok place => store.files.contains place
  | .error _ => false

/-- The store with one more folder, whose name comes last and whose surroundings are there. -/
def makeFolder (store : FileStore) (place : Place) (names : List String) :
    Except FileFailure FileStore := do
  let around ← store.walk place names.dropLast
  if !store.isFolder around then throw .notFolder
  let name := names.getLastD "."
  if nameLimit < name.utf8ByteSize then throw .nameTooLong
  if name = "." ∨ name = ".." ∨ store.has (around ++ [name]) then throw .alreadyThere
  return { store with folders := store.folders.add (around ++ [name]) }

/-- Whether a list of names leads to a folder. -/
def leadsToFolder (store : FileStore) (place : Place) (names : List String) : Bool :=
  match store.walk place names with
  | .ok there => store.isFolder there
  | .error _ => false

/-- The result of making a folder that may be there already. -/
def settled (store : FileStore) (place : Place) (names : List String) :
    FileStore × Except FileFailure Unit :=
  match store.makeFolder place names with
  | .ok store => (store, .ok ())
  | .error failure =>
    (store, if store.leadsToFolder place names then .ok () else .error failure)

/-- The names of the folder around one, all of them last name first. Dots at the end do not
count as names. -/
def surroundings (trail : List String) : List String :=
  ((trail.dropWhile (· == ".")).drop 1).dropWhile (· == ".")

theorem length_surroundings_lt (name : String) (rest : List String) :
    (surroundings (name :: rest)).length < (name :: rest).length := by
  have inner : ((name :: rest).dropWhile (· == ".")).length ≤ (name :: rest).length :=
    (List.dropWhile_sublist _).length_le
  have outer : (surroundings (name :: rest)).length ≤
      (((name :: rest).dropWhile (· == ".")).drop 1).length :=
    (List.dropWhile_sublist _).length_le
  simp only [List.length_drop, List.length_cons] at inner outer ⊢
  omega

/-- Make a folder, given by its names in reverse, and first those around it as far as they are
missing. Those that have been made stay, even if a later one cannot be made. -/
def makeFolders (store : FileStore) (place : Place) (trail : List String) :
    FileStore × Except FileFailure Unit :=
  match trail with
  | [] => (store, .ok ())
  | name :: rest =>
    match store.makeFolder place (name :: rest).reverse with
    | .error .notFound =>
      match store.makeFolders place (surroundings (name :: rest)) with
      | (store, .ok ()) => store.settled place (name :: rest).reverse
      | failed => failed
    | _ => store.settled place (name :: rest).reverse
termination_by trail.length
decreasing_by exact length_surroundings_lt name rest

/-- Create a folder and those that it has to stand in. -/
def createFolders (store : FileStore) (path : String) : FileStore × Except FileFailure Unit :=
  if pathLimit < path.utf8ByteSize then (store, .error .nameTooLong)
  else store.makeFolders (store.start path) ((pathNames path).filter (· ≠ "")).reverse

/-- Write a file. -/
def write (store : FileStore) (path text : String) : Except FileFailure FileStore := do
  if pathLimit < path.utf8ByteSize then throw .nameTooLong
  let names := pathNames path
  let around ← store.walk (store.start path) names.dropLast
  if !store.isFolder around then throw .notFolder
  let name := names.getLastD ""
  if name = "" ∨ name = "." ∨ name = ".." ∨ store.isFolder (around ++ [name]) then throw .isFolder
  if nameLimit < name.utf8ByteSize then throw .nameTooLong
  return { store with files := store.files.insert (around ++ [name]) (some text) }

/-- A store with nothing but a working folder. -/
def empty (workingFolder : Place) (moment : Moment) : FileStore :=
  ⟨workingFolder, ∅, .ofList (workingFolder.mapIdx fun i _ => workingFolder.take (i + 1)), moment⟩

/-- The store with one more file, whatever has to be created for it. -/
def withFile (store : FileStore) (path text : String) : FileStore :=
  let around := ((pathNames path).dropLast.filter (· ≠ "")).reverse
  let store := (store.makeFolders (store.start path) around).1
  (store.write path text).toOption.getD store

end FileStore

instance : FileAccess (StateM FileStore) where
  locate path := fun store => ((store.placeOf path).map Place.path, store)
  isFile path := fun store => (store.isFile path, store)
  read path := fun store => (store.read path, store)
  createFolders path := fun store =>
    let (store, result) := store.createFolders path
    (result, store)
  write path text := fun store =>
    match store.write path text with
    | .ok store => (.ok (), store)
    | .error failure => (.error failure, store)
  now := fun store => (store.moment, store)

end AvrSetup
