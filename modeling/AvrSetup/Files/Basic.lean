import AvrSetup.Moment

/-!
# Access to files

The few operations on files that the program needs. They can be carried out on a file store
that is a plain value, or on real files, and the program is the same for both.
-/

namespace AvrSetup

/-- Why an operation on a file fails. -/
inductive FileFailure where
  /-- There is nothing of that name. -/
  | notFound
  /-- There is something of that name already. -/
  | alreadyThere
  /-- Something that is no folder stands where a folder has to be. -/
  | notFolder
  /-- A folder stands where a file has to be. -/
  | isFolder
  /-- A name, or a whole path, is longer than names and paths may be. -/
  | nameTooLong
  /-- What is in a file cannot be read as a text. -/
  | noText
  /-- Another reason. -/
  | other (reason : String)
  deriving DecidableEq, Repr

/-- Why an operation on a file fails, in words. -/
def FileFailure.message : FileFailure → String
  | notFound => "No such file or directory (os error 2)"
  | alreadyThere => "File exists (os error 17)"
  | notFolder => "Not a directory (os error 20)"
  | isFolder => "Is a directory (os error 21)"
  | nameTooLong => "File name too long (os error 36)"
  | noText => "stream did not contain valid UTF-8"
  | other reason => reason

/-- The operations on files. A path that does not begin with a slash is meant from the working
folder. -/
class FileAccess (m : Type → Type) where
  /-- The path of something that is there, without detours. -/
  locate (path : String) : m (Except FileFailure String)
  /-- Whether a file, and not a folder, is there. -/
  isFile (path : String) : m Bool
  /-- The text of a file. -/
  read (path : String) : m (Except FileFailure String)
  /-- Create a folder and those that it has to stand in, as far as they are missing. -/
  createFolders (path : String) : m (Except FileFailure Unit)
  /-- Write a file, in place of one that is there already. -/
  write (path text : String) : m (Except FileFailure Unit)
  /-- The present moment. -/
  now : m Moment

/-- The path of a file in a folder. -/
def inFolder (folder file : String) : String :=
  if folder = "" then file
  else if folder.toList.getLast? = some '/' then folder ++ file
  else folder ++ "/" ++ file

end AvrSetup
