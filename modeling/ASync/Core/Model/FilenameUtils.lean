import ASync.Core.Model.Libraries
/-!
# The path functions of commons-io

`FilenameUtils.normalizeNoEndSeparator` and `getName`, as commons-io
documents them. A path is a prefix — a drive, a home directory, a server,
a leading separator — and segments. Either separator ends a segment; `.`
is dropped, `..` takes the segment before it along, and a path on which
`..` would leave the prefix has no normal form.
-/

namespace ASync

namespace CommonsIo

/-- Both separators, whatever the system's is. -/
def isSeparator (c : Char) : Bool := c = '/' || c = '\\'

/-- `Character.toUpperCase` takes the character into `A`..`Z`. -/
def isDriveLetter (c : Char) : Bool :=
  c.isAlpha || c = 'ı' || c = 'ſ'

/-- The length of the prefix, `none` where the path has none that is
legal. A home directory may be longer than the path, by the separator
that is to end it. A drive is one UTF-16 unit and a colon. -/
def getPrefixLength (filename : List Char) : Option ℕ :=
  match filename with
  | [] => some 0
  | ':' :: _ => none
  | '~' :: rest =>
    match rest.findIdx? isSeparator with
    | some i => some (i + 2)
    | none => some (filename.length + 1)
  | [c] => some (if isSeparator c then 1 else 0)
  | c :: d :: rest =>
    if d = ':' ∧ c.toNat < 0x10000 then
      if isDriveLetter c then
        match rest with
        | [] => some 2
        | e :: _ => some (if isSeparator e then 3 else 2)
      else none
    else if isSeparator c && isSeparator d then
      match rest.findIdx? isSeparator with
      | none => none
      | some 0 => none
      | some i => some (i + 3)
    else some (if isSeparator c then 1 else 0)

/-- The path with one separator, and one at its end. -/
def withEndSeparator (filename : List Char) : List Char :=
  let array := filename.map fun c => if c = '\\' then '/' else c
  if array.getLast? = some '/' then array else array ++ ['/']

/-- The segments of a path that ends with a separator. -/
def segments (array : List Char) : List (List Char) := (array.splitOn '/').dropLast

/-- Adjoining separators are one, but not right after the prefix. -/
def dropEmpty : List (List Char) → List (List Char)
  | [] => []
  | first :: rest => first :: rest.filter fun segment => segment ≠ []

/-- `.` is dropped. -/
def dropDots (segments : List (List Char)) : List (List Char) :=
  segments.filter fun segment => segment ≠ ['.']

/-- `..` takes the segment before it along. -/
def resolve : List (List Char) → List (List Char) → Option (List (List Char))
  | done, [] => some done
  | done, segment :: rest =>
    if segment = ['.', '.'] then
      if done = [] then none else resolve done.dropLast rest
    else resolve (done ++ [segment]) rest

/-- `normalizeNoEndSeparator(filename, true)`. -/
def normalizeNoEndSeparator (filename : List Char) : Option (List Char) :=
  if filename = [] then some []
  else
    match getPrefixLength filename with
    | none => none
    | some k =>
      let array := withEndSeparator filename
      (resolve [] (dropDots (dropEmpty (segments (array.drop k))))).map fun segments =>
        array.take k ++ ['/'].intercalate segments

/-- `getName`: what follows the last separator. -/
def getName (filename : List Char) : List Char := filename.rtakeWhile fun c => !isSeparator c

end CommonsIo

/-- commons-io. -/
@[reducible] def FilenameUtils.commonsIo : FilenameUtils where
  normalizeNoEndSeparator path :=
    (CommonsIo.normalizeNoEndSeparator path.toList).map String.ofList
  getName path := String.ofList (CommonsIo.getName path.toList)

/-- The functions behave as documented. -/
class LawfulFilenameUtils [FilenameUtils] : Prop where
  normalizeNoEndSeparator_eq : ∀ path : String, FilenameUtils.normalizeNoEndSeparator path =
    (CommonsIo.normalizeNoEndSeparator path.toList).map String.ofList
  getName_eq : ∀ path : String,
    FilenameUtils.getName path = String.ofList (CommonsIo.getName path.toList)

end ASync
