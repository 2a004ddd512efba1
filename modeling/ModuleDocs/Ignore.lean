import ModuleDocs.Files.Disk
import ModuleDocs.Ignore.Pattern
import ModuleDocs.Text.Blank

/-!
# Ignore

Ignore files.  Each line is a rule that leaves out the paths its pattern fits, or keeps them if it
starts with `!`; the last rule that fits decides.  Rules hold for what is below the directory of
their file, and those of a nearer directory come first.  A `.ignore` file always counts and comes
before the files of a repository, which count only inside one.
-/

namespace ModuleDocs.Ignore

/-- A rule of an ignore file. -/
structure Rule where
  pattern : Pattern
  /-- What fits is kept. -/
  keeps : Bool := false
  /-- Only directories fit. -/
  onlyDirectories : Bool := false
deriving Repr

/-! ### Reading rules -/

/-- The pattern as it is compared with paths: one without a slash fits at any depth, and one that
ends in two stars fits what is below a directory but not the directory. -/
def completed (anchored : Bool) (cs : List Char) : List Char :=
  let cs :=
    if anchored || cs.contains '/' || cs = ['*', '*'] then cs
    else '*' :: '*' :: '/' :: cs
  if ['/', '*', '*'].isSuffixOf cs then cs ++ ['/', '*'] else cs

/-- A line without a slash at its end, which may be escaped, and whether there was one. -/
def splitEndSlash (cs : List Char) : List Char × Bool :=
  match cs.reverse with
  | '/' :: '\\' :: before | '/' :: before => (before.reverse, true)
  | _ => (cs, false)

/-- The rule of a line, if it holds one. -/
def Rule.read? (line : String) : Option Rule :=
  let cs := line.toList
  let cs := if ['\\', ' '].isSuffixOf cs then cs else Text.trimRight cs
  if line.toList.head? = some '#' || cs.isEmpty then none
  else
    let (keeps, anchored, cs) := match cs with
      | '\\' :: '!' :: rest => (false, false, '!' :: rest)
      | '\\' :: '#' :: rest => (false, false, '#' :: rest)
      | '!' :: '/' :: rest => (true, true, rest)
      | '!' :: rest => (true, false, rest)
      | '/' :: rest => (false, true, rest)
      | cs => (false, false, cs)
    let (cs, onlyDirectories) := splitEndSlash cs
    (Pattern.read? (completed anchored cs)).map fun pattern => { pattern, keeps, onlyDirectories }

/-- The lines of a file, up to one that is not text. -/
def lines (content : ByteArray) : List String :=
  let rec cut : List UInt8 → List UInt8 → List (List UInt8)
    | taken, [] => [taken.reverse]
    | taken, b :: bs =>
      if b = 10 then
        let line := match taken with
          | 13 :: taken => taken
          | taken => taken
        line.reverse :: cut [] bs
      else cut (b :: taken) bs
  ((cut [] content.toList).map fun line => String.fromUTF8? ⟨line.toArray⟩).takeWhile (·.isSome)
    |>.filterMap id

/-- The text without byte order marks in front. -/
def dropMarks (s : String) : String := String.ofList (s.toList.dropWhile (· = '\ufeff'))

/-- The rules of an ignore file; a file that cannot be read holds none. -/
def rules (fs : Files) (path : String) : List Rule :=
  match fs.read path with
  | .error _ => []
  | .ok content =>
    match lines content with
    | [] => []
    | first :: rest => (dropMarks first :: rest).filterMap Rule.read?

/-! ### Verdicts -/

/-- What rules say of a path. -/
inductive Verdict where
  | ignored | kept
deriving DecidableEq, Repr

/-- What the rules say of a path; the last one that fits decides. -/
def verdict? (rules : List Rule) (names : List String) (isDirectory : Bool) : Option Verdict :=
  let path := ("/".intercalate names).toUTF8.toList
  let fitting := rules.reverse.find? fun r =>
    (!r.onlyDirectories || isDirectory) && r.pattern.fits path
  fitting.map fun r => if r.keeps then .kept else .ignored

/-- The rules of a directory. -/
structure Level where
  place : Place
  /-- The directory is the top of a repository. -/
  isRepository : Bool
  /-- The rules of its `.ignore` file. -/
  own : List Rule
  /-- The rules of its `.gitignore` file. -/
  shared : List Rule
  /-- The rules that its repository keeps to itself. -/
  hidden : List Rule

/-- The first line of a file behind a mark, if it starts with the mark. -/
def firstLine? (fs : Files) (path mark : String) : Option String :=
  match fs.read path with
  | .error _ => none
  | .ok content =>
    (lines content).head?.bind fun line =>
      if mark.isPrefixOf line then some (String.ofList (line.toList.drop mark.length)) else none

/-- The directory in which a repository keeps what its work trees share.  The entry in a work tree
is that directory itself or a file that leads to it. -/
def repositoryDir? (fs : Files) (entry : String) : Option String :=
  if fs.isFile entry then do
    let dir ← firstLine? fs entry "gitdir: "
    let common ← firstLine? fs (Path.join dir "commondir") ""
    some (if ".".isPrefixOf common then Path.join dir common else common)
  else some entry

/-- The rules of the directory at a place. -/
def Level.read (fs : Files) (place : Place) : Level :=
  let file (name : String) : String := Path.join (Path.ofParts true place) name
  { place
    isRepository := fs.exist (file ".git")
    own := rules fs (file ".ignore")
    shared := rules fs (file ".gitignore")
    hidden := match repositoryDir? fs (file ".git") with
      | some dir => rules fs (Path.join dir "info/exclude")
      | none => [] }

/-- What a directory's rules say of a place below it. -/
def Level.verdict? (l : Level) (select : Level → List Rule) (place : Place) (isDirectory : Bool) :
    Option Verdict :=
  Ignore.verdict? (select l) (place.drop l.place.length) isDirectory

/-- The levels up to the top of the repository. -/
def withinRepository : List Level → List Level
  | [] => []
  | l :: ls => if l.isRepository then [l] else l :: withinRepository ls

/-- The rules that hold in a directory: those of the directory and of the ones above it, the nearest
first, and those that the user has for all repositories. -/
structure Scope where
  levels : List Level
  everywhere : List Rule

/-- What the rules say of a place.  The rules for all repositories see it under the names given for
them. -/
def Scope.verdict? (s : Scope) (place : Place) (names : List String) (isDirectory : Bool) :
    Option Verdict :=
  let first (select : Level → List Rule) (levels : List Level) : Option Verdict :=
    levels.findSome? fun l => l.verdict? select place isDirectory
  let own := first Level.own s.levels
  if s.levels.any (·.isRepository) then
    let levels := withinRepository s.levels
    own <|> first Level.shared levels <|> first Level.hidden levels
      <|> Ignore.verdict? s.everywhere names isDirectory
  else own

/-- The scope in a directory below the one of this scope. -/
def Scope.enter (s : Scope) (fs : Files) (place : Place) : Scope :=
  { s with levels := Level.read fs place :: s.levels }

/-- The scope around a place, which is not itself in it. -/
def Scope.around (fs : Files) (everywhere : List Rule) (place : Place) : Scope :=
  { levels := (List.range place.length).reverse.map fun n => Level.read fs (place.take n)
    everywhere }

end ModuleDocs.Ignore
