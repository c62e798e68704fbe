import ASync.Common.Sorting
import ASync.Core.Model.Beans
/-!
# The orderings of a listing

`FileInfoOrdering`. Strings compare as `String.compareTo` does, by UTF-16
unit. Both orderings tie records of one path only, and have the entry of
the parent directory first.
-/

namespace ASync

namespace Core

/-- The UTF-16 units of a character. -/
def utf16Units (c : Char) : List ℕ :=
  if c.toNat < 0x10000 then [c.toNat]
  else [0xD800 + (c.toNat - 0x10000) / 0x400, 0xDC00 + (c.toNat - 0x10000) % 0x400]

/-- `String.compareTo`. -/
def compareTo : Comparator String := compareOn fun s => s.toList.flatMap utf16Units

/-- `ComparisonChain.compareTrueFirst`. -/
def compareTrueFirst : Comparator Bool := compareOn not

namespace FileInfoOrdering

variable [FilenameUtils]

def isParentFunction (fileInfo : FileInfo) : Bool := PathUtils.isParent fileInfo.path

/-- A directory comes before a file. -/
def typeRank (fileInfo : FileInfo) : ℕ := if fileInfo.isDirectory then 1 else 2

def ALPHA_ASC_DIR_FIRST : Comparator FileInfo :=
  compareLex (compareTrueFirst.on isParentFunction)
    (compareLex (compareOn typeRank) (compareTo.on FileInfo.path))

def LAST_MOD_DESC : Comparator FileInfo :=
  compareLex (compareTrueFirst.on isParentFunction)
    (compareLex (fun a b => compareOn FileInfo.lastModified b a) (compareTo.on FileInfo.path))

end FileInfoOrdering

end Core

end ASync
