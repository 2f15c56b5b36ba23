import StorageConsole.Call.Operation
import StorageConsole.Json.Members

namespace StorageConsole

namespace Endpoint

def query (e : Endpoint) (params : Option Params) : Operation := ⟨e, .query params, {}⟩

def queryBy (e : Endpoint) (key value : String) : Operation :=
  e.query (some (({} : Params).set key value))

def send (e : Endpoint) (payload : Http.Payload) : Operation := ⟨e, .json payload, {}⟩

def sendValue (e : Endpoint) (value : Json.Value) : Operation := e.send (.json value)

end Endpoint

namespace Resources

structure NewBucket where
  name : String
  region : String := ""
  deriving DecidableEq, Repr

namespace NewBucket

def value (b : NewBucket) : Json.Value :=
  .object [("name", .string b.name), ("region", .string b.region)]

structure Draft where
  name : String := ""
  region : String := ""

def fields : List (Json.Members.Field Draft) := [
  { name := "name"
    read := fun draft v => (Json.Members.text v).map fun s => { draft with name := s }
    required := true },
  { name := "region"
    read := fun draft v => (Json.Members.text v).map fun s => { draft with region := s }
    required := false }]

def ofValue (v : Json.Value) : Except Json.Mismatch NewBucket :=
  (Json.Members.record "CreateBucket" fields {} v).map fun draft => ⟨draft.name, draft.region⟩

end NewBucket

structure FileRequest where
  bucket : String
  files : List String
  -- The name to save under if the answer gives none; empty for none.
  filename : String := ""
  deriving DecidableEq, Repr

namespace FileRequest

def value (r : FileRequest) : Json.Value :=
  .object ([("bucket", .string r.bucket)]
    ++ (if r.filename = "" then [] else [("filename", .string r.filename)])
    ++ [("files", .array (r.files.map .string))])

structure Draft where
  bucket : String := ""
  files : List String := []
  filename : String := ""

def fields : List (Json.Members.Field Draft) := [
  { name := "bucket"
    read := fun draft v => (Json.Members.text v).map fun s => { draft with bucket := s }
    required := true },
  { name := "files"
    read := fun draft v => (Json.Members.texts v).map fun fs => { draft with files := fs }
    required := true },
  { name := "filename"
    read := fun draft v => (Json.Members.text v).map fun s => { draft with filename := s }
    required := false }]

def ofValue (v : Json.Value) : Except Json.Mismatch FileRequest :=
  (Json.Members.record "GetObject" fields {} v).map fun draft =>
    ⟨draft.bucket, draft.files, draft.filename⟩

end FileRequest

structure NewObject where
  bucket : String
  object : String
  contentType : Option String
  filename : String
  contents : Bytes
  deriving DecidableEq, Repr

def NewObject.form (o : NewObject) : Http.Form :=
  [.text "bucket" o.bucket, .text "object" o.object]
    ++ (o.contentType.map (.text "contentType" ·)).toList
    ++ [.file "file" o.filename o.contentType o.contents]

def stats : Operation := Catalogue.stats.query none

namespace Buckets

def list (params : Option Params) : Operation := Catalogue.listBuckets.query params
def create (bucket : NewBucket) : Operation := Catalogue.createBucket.sendValue bucket.value
def delete (name : String) : Operation := Catalogue.deleteBucket.queryBy "name" name

end Buckets

namespace Objects

def list (params : Params) : Operation := Catalogue.listObjects.query (some params)

def createFolder (bucket folder : String) : Operation :=
  Catalogue.createFolder.sendValue
    (.object [("bucket", .string bucket), ("folder", .string folder)])

def put (object : NewObject) : Operation := ⟨Catalogue.putObject, .form object.form, {}⟩

def delete (bucket : String) (keys : List String) : Operation :=
  Catalogue.deleteObjects.sendValue
    (.object [("bucket", .string bucket), ("keys", .array (keys.map .string))])

def get (request : FileRequest) : Operation := Catalogue.getObject.sendValue request.value

end Objects

namespace Users

def info (params : Option Params) : Operation := Catalogue.userInfo.query params
def list (params : Option Params) : Operation := Catalogue.listUsers.query params
def create (body : Http.Payload) : Operation := Catalogue.createUser.send body
def update (body : Http.Payload) : Operation := Catalogue.updateUser.send body
def delete (name : String) : Operation := Catalogue.deleteUser.queryBy "name" name

end Users

namespace Groups

def list (params : Option Params) : Operation := Catalogue.listGroups.query params
def get (name : String) : Operation := Catalogue.getGroup.queryBy "name" name
def create (body : Http.Payload) : Operation := Catalogue.createGroup.send body
def update (body : Http.Payload) : Operation := Catalogue.updateGroup.send body
def delete (name : String) : Operation := Catalogue.deleteGroup.queryBy "name" name

end Groups

namespace Roles

def list (params : Option Params) : Operation := Catalogue.listRoles.query params
def get (name : String) : Operation := Catalogue.getRole.queryBy "name" name
def create (body : Http.Payload) : Operation := Catalogue.createRole.send body
def update (body : Http.Payload) : Operation := Catalogue.updateRole.send body
def delete (name : String) : Operation := Catalogue.deleteRole.queryBy "name" name

end Roles

namespace Policies

def list (params : Option Params) : Operation := Catalogue.listPolicies.query params
def get (name : String) : Operation := Catalogue.getPolicy.queryBy "name" name
def create (body : Http.Payload) : Operation := Catalogue.createPolicy.send body
def update (body : Http.Payload) : Operation := Catalogue.updatePolicy.send body
def delete (name : String) : Operation := Catalogue.deletePolicy.queryBy "name" name

end Policies

namespace AccessKeys

def list (params : Option Params) : Operation := Catalogue.listAccessKeys.query params
def create (body : Http.Payload) : Operation := Catalogue.createAccessKey.send body
def update (body : Http.Payload) : Operation := Catalogue.updateAccessKey.send body
def delete (accessKeyId : String) : Operation :=
  Catalogue.deleteAccessKey.queryBy "accessKeyId" accessKeyId

end AccessKeys

namespace Quotas

def list (params : Option Params) : Operation := Catalogue.listQuotas.query params
def create (body : Http.Payload) : Operation := Catalogue.createQuota.send body
def update (body : Http.Payload) : Operation := Catalogue.updateQuota.send body
def delete (params : Params) : Operation := Catalogue.deleteQuota.query (some params)

end Quotas

namespace ChunkConfigs

def list (params : Option Params) : Operation := Catalogue.listChunkConfigs.query params
def get (params : Option Params) : Operation := Catalogue.getChunkConfig.query params
def update (body : Http.Payload) : Operation := Catalogue.updateChunkConfig.send body

end ChunkConfigs

namespace Storages

def list (params : Option Params) : Operation := Catalogue.listStorages.query params
def create (body : Http.Payload) : Operation := Catalogue.createStorage.send body
def test (body : Http.Payload) : Operation := Catalogue.testStorage.send body
def delete (params : Params) : Operation := Catalogue.deleteStorage.query (some params)

end Storages

namespace Diagnostics

def object (params : Params) : Operation := Catalogue.inspectObject.query (some params)
def block (params : Params) : Operation := Catalogue.inspectBlock.query (some params)
def chunk (params : Params) : Operation := Catalogue.inspectChunk.query (some params)

end Diagnostics

namespace Logs

def audit (params : Option Params) : Operation := Catalogue.listAudit.query params
def events (params : Option Params) : Operation := Catalogue.listEvents.query params

end Logs

end Resources
end StorageConsole
