import ASync.Core.Model.Libraries
/-!
# The messages of the block exchange protocol

The fields of the generated message classes the program reads or writes.
A field read only through its default has that default for its absence;
one whose presence is tested is an option.
-/

namespace ASync

namespace Bep

namespace BlockExchageProtos

inductive MessageType
  | CLUSTER_CONFIG
  | INDEX
  | INDEX_UPDATE
  | REQUEST
  | RESPONSE
  | DOWNLOAD_PROGRESS
  | PING
  | CLOSE
  deriving DecidableEq

/-- A device of a folder in a cluster configuration. -/
structure Device where
  id : Bytes
  indexId : Option ℤ
  maxSequence : Option ℤ
  deriving DecidableEq

structure Folder where
  id : String
  label : String
  devices : List Device
  deriving DecidableEq

structure ClusterConfig where
  folders : List Folder
  deriving DecidableEq

structure BlockInfo where
  offset : ℤ
  size : ℤ
  hash : Bytes
  deriving DecidableEq

inductive FileInfoType
  | FILE
  | DIRECTORY
  | SYMLINK_FILE
  | SYMLINK_DIRECTORY
  | SYMLINK_UNKNOWN
  deriving DecidableEq

structure Counter where
  id : ℤ
  value : ℤ
  deriving DecidableEq

/-- A record of an index message. The version is a vector of counters,
`none` where the field is absent. -/
structure FileInfo where
  name : String
  type : FileInfoType := .FILE
  size : ℤ := 0
  modifiedS : ℤ := 0
  modifiedNs : ℤ := 0
  deleted : Bool := false
  noPermissions : Bool := false
  version : Option (List Counter) := none
  sequence : ℤ := 0
  blocks : List BlockInfo := []
  deriving DecidableEq

structure IndexUpdate where
  folder : String
  files : List FileInfo
  deriving DecidableEq

structure Request where
  id : ℤ
  folder : String
  name : String
  offset : ℤ
  size : ℤ
  hash : Bytes
  deriving DecidableEq

inductive ErrorCode
  | NO_ERROR
  | GENERIC
  | NO_SUCH_FILE
  | INVALID_FILE
  deriving DecidableEq

structure Response where
  id : ℤ
  data : Bytes
  code : ErrorCode
  deriving DecidableEq

end BlockExchageProtos

end Bep

end ASync
