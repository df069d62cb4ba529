import Storyline.Error

set_option autoImplicit false

/-!
Files as the console program sees them, and the paths that name them.
-/

namespace Storyline.Console

namespace Path

def trimReversed : List Char → List Char
  | '/' :: rest => if rest.isEmpty then ['/'] else trimReversed rest
  | '.' :: '/' :: rest => trimReversed ('/' :: rest)
  | chars => chars

def parent (path : String) : String :=
  let trimmed := trimReversed path.toList.reverse
  String.ofList (trimReversed (trimmed.dropWhile fun c => c ≠ '/')).reverse

def join (directory path : String) : String :=
  if directory = "" || path.startsWith "/" then path
  else if directory.endsWith "/" then directory ++ path
  else directory ++ "/" ++ path

end Path

structure Files where
  read : String → Except FileError String

def Files.isFile (files : Files) (path : String) : Bool :=
  match files.read path with
  | .ok _ => true
  | .error .notText => true
  | .error _ => false

end Storyline.Console
