import StorageConsole.Call.Verb

namespace StorageConsole

structure Endpoint where
  verb : Verb
  path : String
  fallback : String
  deriving DecidableEq, Repr

namespace Catalogue

def stats : Endpoint := ⟨.get, "/stats", "Error fetching stats"⟩

def listBuckets : Endpoint := ⟨.get, "/bucket/list", "Error listing buckets"⟩
def createBucket : Endpoint := ⟨.put, "/bucket/create", "Error creating bucket"⟩
def deleteBucket : Endpoint := ⟨.delete, "/bucket/delete", "Error deleting bucket"⟩

def listObjects : Endpoint := ⟨.get, "/bucket/objects", "Error listing objects"⟩
def createFolder : Endpoint := ⟨.put, "/bucket/folder", "Error creating folder"⟩
def putObject : Endpoint := ⟨.upload, "/bucket/putobject", "Failed to put object"⟩
def deleteObjects : Endpoint := ⟨.post, "/bucket/deleteobject", "Failed to delete object"⟩
def getObject : Endpoint := ⟨.download, "/bucket/getobject", "Failed to download file"⟩

def userInfo : Endpoint := ⟨.get, "/user/info", "Error fetching user"⟩
def listUsers : Endpoint := ⟨.get, "/user/list", "Error listing users"⟩
def createUser : Endpoint := ⟨.post, "/user/create", "Error creating user"⟩
def updateUser : Endpoint := ⟨.post, "/user/update", "Error updating user"⟩
def deleteUser : Endpoint := ⟨.delete, "/user/delete", "Error deleting user"⟩

def listGroups : Endpoint := ⟨.get, "/group/list", "Error listing groups"⟩
def getGroup : Endpoint := ⟨.get, "/group/get", "Error fetching group"⟩
def createGroup : Endpoint := ⟨.post, "/group/create", "Error creating group"⟩
def updateGroup : Endpoint := ⟨.post, "/group/update", "Error updating group"⟩
def deleteGroup : Endpoint := ⟨.delete, "/group/delete", "Error deleting group"⟩

def listRoles : Endpoint := ⟨.get, "/role/list", "Error listing roles"⟩
def getRole : Endpoint := ⟨.get, "/role/get", "Error fetching role"⟩
def createRole : Endpoint := ⟨.post, "/role/create", "Error creating role"⟩
def updateRole : Endpoint := ⟨.post, "/role/update", "Error updating role"⟩
def deleteRole : Endpoint := ⟨.delete, "/role/delete", "Error deleting role"⟩

def listPolicies : Endpoint := ⟨.get, "/policy/list", "Error listing policies"⟩
def getPolicy : Endpoint := ⟨.get, "/policy/get", "Error fetching policy"⟩
def createPolicy : Endpoint := ⟨.post, "/policy/create", "Error creating policy"⟩
def updatePolicy : Endpoint := ⟨.post, "/policy/update", "Error updating policy"⟩
def deletePolicy : Endpoint := ⟨.delete, "/policy/delete", "Error deleting policy"⟩

def listAccessKeys : Endpoint := ⟨.get, "/accesskey/list", "Error listing access keys"⟩
def createAccessKey : Endpoint := ⟨.post, "/accesskey/create", "Error creating access key"⟩
def updateAccessKey : Endpoint := ⟨.post, "/accesskey/update", "Error updating access key"⟩
def deleteAccessKey : Endpoint := ⟨.delete, "/accesskey/delete", "Error deleting access key"⟩

def listQuotas : Endpoint := ⟨.get, "/config/listquota", "Error listing quotas"⟩
def createQuota : Endpoint := ⟨.post, "/config/createquota", "Error creating quota"⟩
def updateQuota : Endpoint := ⟨.post, "/config/updatequota", "Error updating quota"⟩
def deleteQuota : Endpoint := ⟨.delete, "/config/deletequota", "Error deleting quota"⟩

def listChunkConfigs : Endpoint := ⟨.get, "/config/listchunkcfg", "Error listing chunk configs"⟩
def getChunkConfig : Endpoint := ⟨.get, "/config/getchunkcfg", "Error fetching chunk config"⟩
def updateChunkConfig : Endpoint :=
  ⟨.post, "/config/updatechunkcfg", "Error updating chunk config"⟩

def listStorages : Endpoint := ⟨.get, "/config/liststorage", "Error listing storages"⟩
def createStorage : Endpoint := ⟨.post, "/config/createstorage", "Error creating storage"⟩
def testStorage : Endpoint := ⟨.post, "/config/teststorage", "Error testing storage"⟩
def deleteStorage : Endpoint := ⟨.delete, "/config/deletestorage", "Error deleting storage"⟩

def inspectObject : Endpoint := ⟨.get, "/debug/object", "Error inspecting object"⟩
def inspectBlock : Endpoint := ⟨.get, "/debug/block", "Error inspecting block"⟩
def inspectChunk : Endpoint := ⟨.get, "/debug/chunk", "Error inspecting chunk"⟩

def listAudit : Endpoint := ⟨.get, "/audit/list", "Error listing audit logs"⟩
def listEvents : Endpoint := ⟨.get, "/event/list", "Error listing events"⟩

def endpoints : List Endpoint := [
  stats,
  listBuckets, createBucket, deleteBucket,
  listObjects, createFolder, putObject, deleteObjects, getObject,
  userInfo, listUsers, createUser, updateUser, deleteUser,
  listGroups, getGroup, createGroup, updateGroup, deleteGroup,
  listRoles, getRole, createRole, updateRole, deleteRole,
  listPolicies, getPolicy, createPolicy, updatePolicy, deletePolicy,
  listAccessKeys, createAccessKey, updateAccessKey, deleteAccessKey,
  listQuotas, createQuota, updateQuota, deleteQuota,
  listChunkConfigs, getChunkConfig, updateChunkConfig,
  listStorages, createStorage, testStorage, deleteStorage,
  inspectObject, inspectBlock, inspectChunk,
  listAudit, listEvents]

end Catalogue
end StorageConsole
