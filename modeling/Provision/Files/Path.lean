import Provision.Text.Pieces
import Provision.Text.Letters

/-!
# Paths

A path is a text of names with slashes between them. It is kept as it was written, because it is
shown to the user so; these functions take it apart and put it together.
-/

namespace Provision.Files

/-- The names of a path. There is an empty one before a slash at the beginning, between two slashes
and after a slash at the end, which asks for a folder. -/
def names (path : String) : List String :=
  (Text.splitAt '/' path.toList).map String.ofList

/-- Whether a name leads nowhere else: it is empty or a single dot. -/
def staysHere (name : String) : Bool := name == "" || name == "."

/-- Whether a path starts at the root. -/
def isAbsolute (path : String) : Bool := path.toList.head? == some '/'

/-- A path continued by another one; an absolute path stands for itself. -/
def join (base path : String) : String :=
  if isAbsolute path || base = "" then path
  else if base.toList.getLast? = some '/' then base ++ path
  else base ++ "/" ++ path

/-- Characters without the slashes and the slash-dot pairs at their end; the newest first. -/
def trimEnd : List Char → List Char
  | '/' :: [] => ['/']
  | '/' :: cs => trimEnd cs
  | '.' :: '/' :: cs => trimEnd ('/' :: cs)
  | cs => cs

/-- The path of the folder that holds what a path names: empty for a single name, and absent for
the root and the empty path. -/
def parent? (path : String) : Option String :=
  let cs := trimEnd path.toList.reverse
  if cs.isEmpty || cs == ['/'] then none
  else
    let before := cs.dropWhile (· != '/')
    some (String.ofList (trimEnd before).reverse)

/-- The part of a file name after its last dot; a name that only begins with a dot has none. -/
def extension? (name : String) : Option String :=
  let cs := name.toList.reverse
  let ext := cs.takeWhile (· != '.')
  let stem := (cs.dropWhile (· != '.')).drop 1
  if stem.isEmpty || cs == ['.', '.'] then none else some (String.ofList ext.reverse)

/-- Whether a file name has one of the given extensions, up to the case of ASCII letters. -/
def hasExtension (extensions : List String) (name : String) : Bool :=
  (extension? name).any fun e => extensions.any (Text.sameLetters e)

end Provision.Files
