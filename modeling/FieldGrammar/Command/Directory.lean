import FieldGrammar.Config

/-!
# Directories

A directory that holds only files, by name.  Paths are taken from inside it.
-/

namespace FieldGrammar
namespace Command

structure Directory where
  files : List (String × String)

namespace Directory

def file? (directory : Directory) (name : String) : Option String :=
  (directory.files.find? fun entry => entry.1 == name).map Prod.snd

/-- The parts of a path between its slashes. -/
def split : List Char -> List Char -> List (List Char)
  | current, [] => [current.reverse]
  | current, c :: rest =>
      if c = '/' then current.reverse :: split [] rest else split (c :: current) rest

/-- The steps of a path; parts that stay in place are none. -/
def steps (parts : List (List Char)) : List String :=
  (parts.filter fun part => part != [] && part != ['.']).map String.ofList

def endsInPlace (parts : List (List Char)) : Bool :=
  match parts.getLast? with
  | some part => part == [] || part == ['.']
  | none => false

def readSteps (directory : Directory) (asDirectory : Bool) :
    List String -> Except ReadError String
  | [] => .error .isDirectory
  | name :: rest =>
      if name = ".." then if rest.all (· = "..") then .error .isDirectory else .error .notFound
      else
        match directory.file? name with
        | none => .error .notFound
        | some content =>
            if rest.isEmpty && !asDirectory then .ok content else .error .notDirectory

/-- Reads the file at a path.  What lies outside the directory is not found. -/
def read (directory : Directory) (path : String) : Except ReadError String :=
  match path.toList with
  | [] => .error .notFound
  | '/' :: rest =>
      if (steps (split [] rest)).isEmpty then .error .isDirectory else .error .notFound
  | cs =>
      let parts := split [] cs
      directory.readSteps (endsInPlace parts) (steps parts)

end Directory
end Command
end FieldGrammar
