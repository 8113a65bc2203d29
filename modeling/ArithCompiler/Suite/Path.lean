import ArithCompiler.Text.Pieces

/-!
# Written paths

Paths are cleaned by their text alone: empty parts and single dots go, and two
dots take the part before them away.
-/

namespace ArithCompiler.Suite.Path

/-- One more part behind parts that are clean, last part first. -/
def addPart (rooted : Bool) (done : List String) (part : String) : List String :=
  if part = "" || part = "." then done
  else if part = ".." then
    match done with
    | [] => if rooted then [] else [".."]
    | d :: rest => if d = ".." then ".." :: d :: rest else rest
  else part :: done

def isRooted (path : String) : Bool := Text.startsWith path "/"

/-- The parts of a path that count. -/
def parts (path : String) : List String :=
  ((Text.split '/' path).foldl (addPart (isRooted path)) []).reverse

def joinParts (ps : List String) : String := String.intercalate "/" ps

/-- The shortest path with the same meaning. -/
def clean (path : String) : String :=
  if isRooted path then "/" ++ joinParts (parts path)
  else if parts path = [] then "."
  else joinParts (parts path)

/-- The path of a name in a directory. -/
def inside (directory name : String) : String := clean (directory ++ "/" ++ name)

/-- Drops what two lists have in common at the front. -/
def dropCommon : List String → List String → List String × List String
  | a :: as, b :: bs => if a = b then dropCommon as bs else (a :: as, b :: bs)
  | as, bs => (as, bs)

/-- The path from a directory to a target; none if it cannot be told. -/
def relative? (directory target : String) : Option String :=
  if isRooted directory != isRooted target then none
  else
    let (up, down) := dropCommon (parts directory) (parts target)
    if up.head? = some ".." then none
    else
      let all := up.map (fun _ => "..") ++ down
      some (if all = [] then "." else joinParts all)

end ArithCompiler.Suite.Path
