import AgenticRag.Lib.Paths
import AgenticRag.Lib.PyVal

/-!
# The Storage of Reports

Reports are stored as files, one directory for each tenant. Writing checks the names
of the tenant and the report, and takes few extensions, in any case. Reading and
looking check the names as well, and take the extension as it is.

The files are those under the root, by the parts of their paths. A path with parts
below a file leads nowhere, as there are no directories but those of the tenants.

## Main definitions

* `LocalArtifactStorage`: The storage.
* `LocalArtifactStorage.read`, `LocalArtifactStorage.fileExists`: Read it, and look
  whether it is there.
-/

namespace AgenticRag

namespace Report

open Py Ordered

/-- A file, under the parts of its path. -/
abbrev Files := List (List String × String)

/-- The storage. The root is a path that was resolved. -/
structure LocalArtifactStorage where
  rootPath : List String
  downloadBaseUrl : String := "/api/v1/reports"
  resolved : ".." ∉ rootPath := by decide

/-- The errors of the storage. -/
inductive StorageError where
  | valueError (message : String)
  | fileNotFound (message : String)
  deriving DecidableEq, Repr

/-- What is returned for a report that was stored. -/
structure StoredArtifact where
  artifactId : String
  fileUri : String
  downloadUrl : String
  storageBackend : String := "local"
  fileSizeBytes : Nat

/-- What an id may be made of. -/
def isSafeChar (c : Char) : Bool := c.isAlphanum || c == '_' || c == '-'

/-- The pattern of safe names, which lets a line feed stand behind them. -/
def matchesSafeId (value : String) : Bool :=
  let body := if value.toList.getLast? = some '\n' then value.toList.dropLast else value.toList
  1 ≤ body.length && body.length ≤ 64 && body.all isSafeChar

/-- A name that may become a part of a path. -/
def isSafeId (value : String) : Bool :=
  value != "" && !(contains value ".." || contains value "/" || contains value "\\") &&
    matchesSafeId value

/-- `text.lstrip(".")`. -/
def lstripDots (text : String) : String := String.ofList (text.toList.dropWhile (· == '.'))

/-- The formats that are saved. -/
def savedExtensions : List String := ["md", "html", "txt"]

/-- A path as text. -/
def pathText (path : List String) : String := String.join (path.map ("/" ++ ·))

namespace LocalArtifactStorage

variable (u : Unicode) (s : LocalArtifactStorage)

/-- The directory of a tenant. -/
def tenantDir (tenantId : String) : List String := s.rootPath ++ pathParts tenantId

/-- The path of a report. -/
def filePath (tenantId reportId ext : String) : List String :=
  s.tenantDir tenantId ++ pathParts (reportId ++ "." ++ ext)

/-- What is wrong with the names, if anything is. -/
def checkIds (tenantId reportId : String) : Except StorageError Unit :=
  if ¬ isSafeId tenantId then
    .error (.valueError ("非法的 tenant_id: " ++ reprStr u tenantId))
  else if ¬ isSafeId reportId then
    .error (.valueError ("非法的 report_id: " ++ reprStr u reportId))
  else .ok ()

/-- The extension a report is saved under. -/
def savedExtension (extension : String) : String := u.lower (lstripDots extension)

/-- Write a report. The text is written as it is. -/
def save (files : Files) (now : Int) (tenantId reportId content extension : String) :
    Except StorageError (StoredArtifact × Files) := do
  checkIds u tenantId reportId
  let ext := savedExtension u extension
  if ¬ savedExtensions.contains ext then .error (.valueError ("不支持的文件扩展名: " ++ ext))
  else
    let path := s.filePath tenantId reportId ext
    return ({ artifactId := reportId
              fileUri := "file://" ++ pathText path
              downloadUrl := s.downloadBaseUrl ++ "/" ++ tenantId ++ "/" ++ reportId ++
                "/download?expires=" ++ toString (now + 600)
              fileSizeBytes := content.utf8ByteSize },
      dictSet path content files)

/-- The path a report is read from. -/
def readPath (tenantId reportId extension : String) : List String :=
  s.filePath tenantId reportId (lstripDots extension)

/-- Read a report back. -/
def read (files : Files) (tenantId reportId extension : String) : Except StorageError String := do
  checkIds u tenantId reportId
  let path := s.readPath tenantId reportId extension
  match files.lookup path with
  | none => .error (.fileNotFound ("报告文件不存在: " ++ pathText path))
  | some content => return universalNewlines content

/-- Whether a report was saved. -/
def fileExists (files : Files) (tenantId reportId extension : String) : Bool :=
  isSafeId tenantId && isSafeId reportId &&
    (files.lookup (s.readPath tenantId reportId extension)).isSome

end LocalArtifactStorage

end Report

end AgenticRag
