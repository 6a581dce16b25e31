import ReviewFeed.Attribute.Account

/-!
# Patch sets, their votes and their files
-/

namespace ReviewFeed

structure Approval where
  label : Option String
  description : Option String
  value : Option String
  oldValue : Option String
  grantedOn : Option Timestamp
  grantedBy : Option Account
  deriving DecidableEq, Repr

namespace Approval

/-- The names of the fields, in order. -/
def fieldNames : List String :=
  ["type", "description", "value", "oldValue", "grantedOn", "by"]

def ofFields (fields : Fields) : Approval :=
  { label := fields.read "type" Json.string?
    description := fields.read "description" Json.string?
    value := fields.read "value" Json.scalarText?
    oldValue := fields.read "oldValue" Json.scalarText?
    grantedOn := fields.read "grantedOn" Timestamp.read?
    grantedBy := fields.read "by" Account.read? }

def read? (value : Json) : Option Approval :=
  (Fields.ofJson? fieldNames value).map ofFields

def toJson (approval : Approval) : Json :=
  .object
    [("type", .ofOption .string approval.label),
      ("description", .ofOption .string approval.description),
      ("value", .ofOption .string approval.value),
      ("oldValue", .ofOption .string approval.oldValue),
      ("grantedOn", .ofOption Timestamp.toJson approval.grantedOn),
      ("by", .ofOption Account.toJson approval.grantedBy)]

end Approval

structure PatchSetFile where
  file : Option String
  fileOld : Option String
  changeType : Option String
  insertions : Option Int
  deletions : Option Int
  deriving DecidableEq, Repr

namespace PatchSetFile

/-- The names of the fields, in order. -/
def fieldNames : List String := ["file", "fileOld", "type", "insertions", "deletions"]

def ofFields (fields : Fields) : PatchSetFile :=
  { file := fields.read "file" Json.string?
    fileOld := fields.read "fileOld" Json.string?
    changeType := fields.read "type" Json.string?
    insertions := fields.read "insertions" Json.word?
    deletions := fields.read "deletions" Json.word? }

def read? (value : Json) : Option PatchSetFile :=
  (Fields.ofJson? fieldNames value).map ofFields

def toJson (file : PatchSetFile) : Json :=
  .object
    [("file", .ofOption .string file.file),
      ("fileOld", .ofOption .string file.fileOld),
      ("type", .ofOption .string file.changeType),
      ("insertions", .ofOption .ofInt file.insertions),
      ("deletions", .ofOption .ofInt file.deletions)]

end PatchSetFile

structure PatchSet where
  number : Option String
  revision : Option String
  gitRef : Option String
  parents : List String
  uploader : Option Account
  author : Option Account
  createdOn : Option Timestamp
  kind : Option String
  approvals : List Approval
  files : List PatchSetFile
  deriving DecidableEq, Repr

namespace PatchSet

/-- The names of the fields, in order. -/
def fieldNames : List String :=
  ["number", "revision", "ref", "parents", "uploader", "author", "createdOn", "kind",
    "approvals", "files"]

def ofFields (fields : Fields) : PatchSet :=
  { number := fields.read "number" Json.scalarText?
    revision := fields.read "revision" Json.string?
    gitRef := fields.read "ref" Json.string?
    parents := fields.list "parents" Json.strings?
    uploader := fields.read "uploader" Account.read?
    author := fields.read "author" Account.read?
    createdOn := fields.read "createdOn" Timestamp.read?
    kind := fields.read "kind" Json.string?
    approvals := fields.list "approvals" (Json.list? Approval.read?)
    files := fields.list "files" (Json.list? PatchSetFile.read?) }

def read? (value : Json) : Option PatchSet :=
  (Fields.ofJson? fieldNames value).map ofFields

def toJson (patchSet : PatchSet) : Json :=
  .object
    [("number", .ofOption .string patchSet.number),
      ("revision", .ofOption .string patchSet.revision),
      ("ref", .ofOption .string patchSet.gitRef),
      ("parents", .ofList .string patchSet.parents),
      ("uploader", .ofOption Account.toJson patchSet.uploader),
      ("author", .ofOption Account.toJson patchSet.author),
      ("createdOn", .ofOption Timestamp.toJson patchSet.createdOn),
      ("kind", .ofOption .string patchSet.kind),
      ("approvals", .ofList Approval.toJson patchSet.approvals),
      ("files", .ofList PatchSetFile.toJson patchSet.files)]

end PatchSet

end ReviewFeed
