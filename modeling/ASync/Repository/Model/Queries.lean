import ASync.Repository.Model.SqlRepository
/-!
# Queries on `file_info`

The statements that read file records. A query that may give several
rows gives them in any order: `Selects` says which lists of rows answer
it.
-/

namespace ASync

namespace Repository

open ASync.Core

variable [FilenameUtils]

/-- The answer of a query, or the `SQLException` a call wraps. -/
def answered {α : Type} (fault : Fault) (answer : Except JavaException α) :
    Except JavaException α :=
  if fault = some .selectFileInfo then .error (.runtime "SQLException") else answer

namespace SqlRepository

/-- A row is in the table. -/
def Holds (s : SqlRepository) (row : FileInfoRow) : Prop :=
  s.fileInfo.find (row.folder, row.path) = some row

/-- `SELECT * FROM file_info WHERE folder=? AND path=? AND is_deleted=FALSE`. -/
def selectNotDeleted (s : SqlRepository) (folder path : String) : Option FileInfoRow :=
  (s.fileInfo.find (folder, path)).filter fun row =>
    row.folder = folder && row.path = path && !row.isDeleted

/-- `SELECT * FROM file_info WHERE folder=? AND parent=? AND is_deleted=FALSE`. -/
structure Selects (s : SqlRepository) (folder parent : String) (rows : List FileInfoRow) :
    Prop where
  /-- No row is given twice. -/
  nodup : rows.Nodup
  mem_iff : ∀ row, row ∈ rows ↔
    s.Holds row ∧ row.folder = folder ∧ row.parent = parent ∧ row.isDeleted = false

end SqlRepository

def findNotDeletedFileInfo (s : SqlRepository) (fault : Fault) (folder path : String) :
    Except JavaException (Option FileInfo) :=
  answered fault ((s.selectNotDeleted folder path).mapM readFileInfo)

/-- `findNotDeletedFilesByFolderAndParent`, of the rows the query gave. -/
def findNotDeletedFilesByFolderAndParent (fault : Fault) (rows : List FileInfoRow) :
    Except JavaException (List FileInfo) :=
  answered fault (rows.mapM readFileInfo)

end Repository

end ASync
