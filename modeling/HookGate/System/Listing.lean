import HookGate.Text.Basic

/-! # Listings

What a directory holds, at every depth: files, directories with their own listings, and everything else, among it
links, which lead nowhere here. `findFile?` looks for a file by name, in the order of names and into each directory
before going on. -/
namespace HookGate

inductive Listing
  | nothing
  | file (name : String) (rest : Listing)
  | directory (name : String) (below rest : Listing)
  | other (name : String) (rest : Listing)
deriving Repr, DecidableEq

namespace Listing

/-- Puts a file in front of the first name that is not before its own. -/
def addFile (n : String) : Listing → Listing
  | nothing => file n nothing
  | file m rest => if m < n then file m (addFile n rest) else file n (file m rest)
  | directory m below rest => if m < n then directory m below (addFile n rest) else file n (directory m below rest)
  | other m rest => if m < n then other m (addFile n rest) else file n (other m rest)

/-- Puts a directory in front of the first name that is not before its own. -/
def addDirectory (n : String) (inside : Listing) : Listing → Listing
  | nothing => directory n inside nothing
  | file m rest => if m < n then file m (addDirectory n inside rest) else directory n inside (file m rest)
  | directory m below rest =>
    if m < n then directory m below (addDirectory n inside rest) else directory n inside (directory m below rest)
  | other m rest => if m < n then other m (addDirectory n inside rest) else directory n inside (other m rest)

/-- The listing in the order of names, at every depth; only files and directories are kept. -/
def sorted : Listing → Listing
  | nothing => nothing
  | file n rest => addFile n rest.sorted
  | directory n below rest => addDirectory n below.sorted rest.sorted
  | other _ rest => rest.sorted

/-- The names that lead to the first file called `name`, as the listing stands. -/
def first? (name : String) : Listing → Option (List String)
  | nothing => none
  | file n rest => if n = name then some [n] else first? name rest
  | directory n below rest =>
    match first? name below with
    | some path => some (n :: path)
    | none => first? name rest
  | other _ rest => first? name rest

/-- The names that lead to the file called `name` which comes first in the order of names. -/
def findFile? (name : String) (l : Listing) : Option (List String) := first? name l.sorted

end Listing

end HookGate
