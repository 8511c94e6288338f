import Zss.Lib.KeywordPath
import Zss.Security.ErrorText
import Zss.Security.ProfilePrefix

/-!
# Routing of the management services

The class and the group management services of `securityService.c`: the check of the path, what is
extracted from it, the type of the request, and the handler of each type up to the function of the
client it calls. Each function reads the segments again, by position.

A path of the grammar is parsed in one way (`Lib.KeywordPath`), and what it names is a
`ManagedObject`; so is what a call of the client is about. `routes_by_design` compares the two.

## What is not established

The retrieval of one group, which the handler answers like the one of all groups, is left out of the
design. What the client and the services make of a call is not part of a route.
-/

namespace Zss.Security.Routing

open Zss.Lib.KeywordPath
open Zss.Lib (Program)

/-! ## Requests -/

def httpStatusBadRequest : Nat := 400

def methodGET : Text := "GET".toList
def methodPOST : Text := "POST".toList
def methodPUT : Text := "PUT".toList
def methodDELETE : Text := "DELETE".toList

/-- What the body's properties are to these services. -/
inductive Json where
  | string (value : Text)
  | other

/-- `jsonAsString`. -/
def Json.asString : Json → Option Text
  | .string value => some value
  | .other => none

/-- An `HttpRequest`: the path's segments, the method, the parameters of the query and the body
parsed. -/
structure HttpRequest where
  parsedFile : List Text
  method : Text
  start : Option Text
  count : Option Int
  dryRun : Option Text
  requestBody : Option (List (Text × Json))

def getDryRunValue (request : HttpRequest) : Bool := request.dryRun != some "false".toList

/-- `getUserProfileCount` and `getGroupCount`. -/
def getCount (request : HttpRequest) (maxCount : Nat) : Int := request.count.getD maxCount

/-- What a handler comes to: an error response, a call of the client, or a null string read. -/
inductive Outcome where
  | error (status : Nat) (message : String)
  | calls (call : SecurityCall)
  | nullDereference

/-- A string is read, by `strlen` or `strcmp`. -/
def withString (string : Option Text) (next : Text → Outcome) : Outcome :=
  match string with
  | none => .nullDereference
  | some string => next string

/-! ## The segments -/

/-- The loop that puts the path's segments in an array of null pointers. -/
def fillSegments : Nat → List Text → List (Option Text)
  | 0, _ => []
  | max + 1, [] => List.replicate (max + 1) none
  | max + 1, pathSegment :: path => some pathSegment :: fillSegments max path

def segmentAt (pathSegments : List (Option Text)) (id : Nat) : Option Text :=
  pathSegments.getD id none

/-- The check of a path: the count of its segments, the service, and the keywords at their places
where the path goes that far. -/
def isMgmtQueryStringValid (maxSegmentCount : Nat) (keywords : List (Nat × Text))
    (path : List Text) : Bool :=
  let segmentCount := path.length
  if segmentCount < 1 || maxSegmentCount < segmentCount then false
  else
    let pathSegments := fillSegments maxSegmentCount path
    match segmentAt pathSegments 0 with
    | none => false
    | some serviceSegment =>
      if serviceSegment ≠ "security-mgmt".toList then false
      else keywords.all fun (id, keyword) =>
        match segmentAt pathSegments id with
        | none => true
        | some segment => segment == keyword

/-- The value after a keyword: the empty string when the path ends at the keyword. -/
def segmentValue (pathSegments : List (Option Text)) (id : Nat) : Option Text :=
  if (segmentAt pathSegments id).isSome && (segmentAt pathSegments (id + 1)).isNone then some []
  else segmentAt pathSegments (id + 1)

/-! ## Class management -/

def classMgmtAllowedClass : Text := "default-class".toList

def classMgmtQueryMaxSegmentCount : Nat := 7
def classMgmtClassSegmentId : Nat := 1
def classMgmtProfileSegmentId : Nat := 3
def classMgmtAccessListSegmentId : Nat := 5

def isClassMgmtQueryStringValid : List Text → Bool :=
  isMgmtQueryStringValid classMgmtQueryMaxSegmentCount
    [(classMgmtClassSegmentId, "classes".toList), (classMgmtProfileSegmentId, "profiles".toList),
      (classMgmtAccessListSegmentId, "access-list".toList)]

/-- The strings `extractClassMgmtQueryParms` gives. -/
structure ClassMgmtQueryParms where
  className : Option Text
  profileName : Option Text
  accessListEntryID : Option Text

def extractClassMgmtQueryParms (path : List Text) : ClassMgmtQueryParms :=
  let pathSegments := fillSegments classMgmtQueryMaxSegmentCount path
  let className := segmentValue pathSegments classMgmtClassSegmentId
  { className := if className = some classMgmtAllowedClass then some [] else className
    profileName := segmentValue pathSegments classMgmtProfileSegmentId
    accessListEntryID := segmentValue pathSegments classMgmtAccessListSegmentId }

inductive ClassMgmtRequestType where
  | unknownRequest
  | profileGET
  | profilePOST
  | profilePUT
  | profileDELETE
  | accessListGET
  | accessListPOST
  | accessListPUT
  | accessListDELETE

/-- The types of the requests about access lists. -/
def ClassMgmtRequestType.isAccessList : ClassMgmtRequestType → Bool
  | .accessListGET | .accessListPOST | .accessListPUT | .accessListDELETE => true
  | _ => false

def getClassMgmtRequstType (request : HttpRequest) : ClassMgmtRequestType :=
  match extractClassMgmtQueryParms request.parsedFile with
  | ⟨some _, some _, some _⟩ =>
    if request.method = methodGET then .accessListGET
    else if request.method = methodPOST then .accessListPOST
    else if request.method = methodPUT then .accessListPUT
    else if request.method = methodDELETE then .accessListDELETE
    else .unknownRequest
  | ⟨some _, some _, none⟩ =>
    if request.method = methodGET then .profileGET
    else if request.method = methodPOST then .profilePOST
    else if request.method = methodPUT then .profilePUT
    else if request.method = methodDELETE then .profileDELETE
    else .unknownRequest
  | _ => .unknownRequest

def respondToProfileGET (parms : ClassMgmtQueryParms) (request : HttpRequest) : Outcome :=
  withString parms.className fun className =>
  if className.length > 0 then .error httpStatusForbidden "forbidden"
  else withString parms.profileName fun profileName =>
  if profileName.length > 0 then
    .error httpStatusNotImplemented "specific profile info retrieval not implemented"
  else
    let profilesToExtract := getCount request genresProfileMaxCount
    if profilesToExtract < 0 || genresProfileMaxCount < profilesToExtract then
      .error httpStatusBadRequest "Count out of range"
    else .calls (.extractGenresProfiles (some className) request.start true true)

def respondToProfilePOST (parms : ClassMgmtQueryParms) (request : HttpRequest) : Outcome :=
  withString parms.className fun className =>
  if className.length > 0 then .error httpStatusForbidden "forbidden"
  else withString parms.profileName fun profileName =>
  if profileName.length = 0 then .error httpStatusBadRequest "profile name required"
  else
    let owner := (request.requestBody.bind (·.lookup "owner".toList)).bind Json.asString
    .calls (.defineProfile (some profileName) owner (getDryRunValue request) true true)

def respondToProfileDELETE (parms : ClassMgmtQueryParms) (request : HttpRequest) : Outcome :=
  withString parms.className fun className =>
  if className.length > 0 then .error httpStatusForbidden "forbidden"
  else withString parms.profileName fun profileName =>
  if profileName.length = 0 then .error httpStatusBadRequest "profile name required"
  else .calls (.deleteProfile (some profileName) (getDryRunValue request) true true)

inductive GenresAccessType where
  | unknown
  | read
  | update
  | alter
deriving DecidableEq

def translateGenresAccessType (typeString : Text) : GenresAccessType :=
  if typeString = "READ".toList then .read
  else if typeString = "UPDATE".toList then .update
  else if typeString = "ALTER".toList then .alter
  else .unknown

/-- The access type of a body, read by both `PUT` handlers, and the errors on the way. -/
def withAccessType (request : HttpRequest) (isKnown : Text → Bool) (unknown : String)
    (next : Outcome) : Outcome :=
  match request.requestBody with
  | none => .error httpStatusBadRequest "Body missing"
  | some requestBody =>
    match requestBody.lookup "accessType".toList with
    | none => .error httpStatusBadRequest "accessType missing"
    | some accessTypeParm =>
      match accessTypeParm.asString with
      | none => .error httpStatusBadRequest "accessType has bad type"
      | some accessType =>
        if isKnown accessType then next else .error httpStatusBadRequest unknown

def respondToProfileAccessListPUT (parms : ClassMgmtQueryParms) (request : HttpRequest) :
    Outcome :=
  withString parms.className fun className =>
  if className.length > 0 then .error httpStatusForbidden "forbidden"
  else withString parms.profileName fun profileName =>
  if profileName.length = 0 then .error httpStatusBadRequest "profile name required"
  else withString parms.accessListEntryID fun accessListEntryID =>
  if accessListEntryID.length = 0 then .error httpStatusBadRequest "user ID required"
  else withAccessType request (translateGenresAccessType · != .unknown)
    "unknown access type, use [READ, UPDATE, ALTER]"
    (.calls (.giveAccessToProfile (some accessListEntryID) (some profileName)
      (getDryRunValue request) true true))

/-- The handler of the list, as far as its first call: `Security.respondToProfileAccessListGET` is
the whole of it. -/
def respondToProfileAccessListGET (parms : ClassMgmtQueryParms) : Outcome :=
  withString parms.className fun className =>
  if className.length > 0 then .error httpStatusForbidden "forbidden"
  else withString parms.accessListEntryID fun accessListEntryID =>
  if accessListEntryID.length > 0 then
    .error httpStatusNotImplemented "specific user access status retrieval not implemented"
  else .calls (.extractGenresAccessList (some className) parms.profileName true true)

def respondToProfileAccessListDELETE (parms : ClassMgmtQueryParms) (request : HttpRequest) :
    Outcome :=
  withString parms.className fun className =>
  if className.length > 0 then .error httpStatusForbidden "forbidden"
  else withString parms.profileName fun profileName =>
  if profileName.length = 0 then .error httpStatusBadRequest "profile name required"
  else withString parms.accessListEntryID fun accessListEntryID =>
  if accessListEntryID.length = 0 then
    .error httpStatusBadRequest "access list entry name required"
  else .calls (.revokeAccessToProfile (some accessListEntryID) (some profileName)
    (getDryRunValue request) true true)

def serveClassManagement (request : HttpRequest) : Outcome :=
  if isClassMgmtQueryStringValid request.parsedFile = false then
    .error httpStatusBadRequest "Incorrect query"
  else
    let commonParms := extractClassMgmtQueryParms request.parsedFile
    match getClassMgmtRequstType request with
    | .profileGET => respondToProfileGET commonParms request
    | .profilePOST => respondToProfilePOST commonParms request
    | .profileDELETE => respondToProfileDELETE commonParms request
    | .accessListGET => respondToProfileAccessListGET commonParms
    | .accessListPUT => respondToProfileAccessListPUT commonParms request
    | .accessListDELETE => respondToProfileAccessListDELETE commonParms request
    | _ => .error httpStatusNotImplemented "Unsupported request"

/-! ## Group management -/

def groupProfileMaxCount : Nat := 1000

def groupMgmtQueryMaxSegmentCount : Nat := 5
def groupMgmtGroupSegmentId : Nat := 1
def groupMgmtAccessListSegmentId : Nat := 3

def isGroupMgmtQueryStringValid : List Text → Bool :=
  isMgmtQueryStringValid groupMgmtQueryMaxSegmentCount
    [(groupMgmtGroupSegmentId, "groups".toList),
      (groupMgmtAccessListSegmentId, "access-list".toList)]

/-- The strings `extractGroupMgmtQueryParms` gives. -/
structure GroupMgmtQueryParms where
  groupName : Option Text
  accessListEntryID : Option Text

def extractGroupMgmtQueryParms (path : List Text) : GroupMgmtQueryParms :=
  let pathSegments := fillSegments groupMgmtQueryMaxSegmentCount path
  { groupName := segmentValue pathSegments groupMgmtGroupSegmentId
    accessListEntryID := segmentValue pathSegments groupMgmtAccessListSegmentId }

inductive GroupMgmtRequestType where
  | unknownRequest
  | groupGET
  | groupPOST
  | groupPUT
  | groupDELETE
  | accessListGET
  | accessListPOST
  | accessListPUT
  | accessListDELETE

/-- The types of the requests about access lists. -/
def GroupMgmtRequestType.isAccessList : GroupMgmtRequestType → Bool
  | .accessListGET | .accessListPOST | .accessListPUT | .accessListDELETE => true
  | _ => false

def getGroupMgmtRequstType (request : HttpRequest) : GroupMgmtRequestType :=
  match extractGroupMgmtQueryParms request.parsedFile with
  | ⟨some _, some _⟩ =>
    if request.method = methodGET then .accessListGET
    else if request.method = methodPOST then .accessListPOST
    else if request.method = methodPUT then .accessListPUT
    else if request.method = methodDELETE then .accessListDELETE
    else .unknownRequest
  | ⟨some _, none⟩ =>
    if request.method = methodGET then .groupGET
    else if request.method = methodPOST then .groupPOST
    else if request.method = methodPUT then .groupPUT
    else if request.method = methodDELETE then .groupDELETE
    else .unknownRequest
  | _ => .unknownRequest

/-- The handler of the groups does not look at the group of the path. -/
def respondToGroupGET (request : HttpRequest) : Outcome :=
  let groupsToExtract := getCount request groupProfileMaxCount
  if groupsToExtract < 0 || groupProfileMaxCount < groupsToExtract then
    .error httpStatusBadRequest "Count out of range"
  else .calls (.extractGroupProfiles request.start true true)

def respondToGroupPOST (parms : GroupMgmtQueryParms) (request : HttpRequest) : Outcome :=
  withString parms.groupName fun groupName =>
  if groupName.length = 0 then .error httpStatusBadRequest "profile name required"
  else
    match request.requestBody with
    | none => .error httpStatusBadRequest "Body missing"
    | some requestBody =>
      match requestBody.lookup "superiorGroup".toList with
      | none => .error httpStatusBadRequest "superiorGroup missing"
      | some superiorGroupParm =>
        match superiorGroupParm.asString with
        | none => .error httpStatusBadRequest "superior group has bad type"
        | some superiorGroup =>
          .calls (.addGroup (some groupName) (some superiorGroup) (getDryRunValue request) true
            true)

def respondToGroupDELETE (parms : GroupMgmtQueryParms) (request : HttpRequest) : Outcome :=
  withString parms.groupName fun groupName =>
  if groupName.length = 0 then .error httpStatusBadRequest "profile name required"
  else .calls (.deleteGroup (some groupName) (getDryRunValue request) true true)

inductive GroupAccessType where
  | unknown
  | use
  | create
  | connect
  | join
deriving DecidableEq

def translateGroupAccessType (typeString : Text) : GroupAccessType :=
  if typeString = "USE".toList then .use
  else if typeString = "CREATE".toList then .create
  else if typeString = "CONNECT".toList then .connect
  else if typeString = "JOIN".toList then .join
  else .unknown

def zssLogUnkTypeUccjMsg : String :=
  "ZSSE1417W Unknown access type, use [USE, CREATE, CONNECT, JOIN]"

def respondToGroupAccessListPUT (parms : GroupMgmtQueryParms) (request : HttpRequest) : Outcome :=
  withString parms.groupName fun groupName =>
  if groupName.length = 0 then .error httpStatusBadRequest "group name required"
  else withString parms.accessListEntryID fun accessListEntryID =>
  if accessListEntryID.length = 0 then .error httpStatusBadRequest "user ID required"
  else withAccessType request (translateGroupAccessType · != .unknown) zssLogUnkTypeUccjMsg
    (.calls (.connectToGroup (some accessListEntryID) (some groupName) (getDryRunValue request)
      true true))

/-- The handler of the list, as far as its first call: `Security.respondToGroupAccessListGET` is
the whole of it. -/
def respondToGroupAccessListGET (parms : GroupMgmtQueryParms) : Outcome :=
  withString parms.accessListEntryID fun accessListEntryID =>
  if accessListEntryID.length > 0 then
    .error httpStatusNotImplemented "specific user access status retrieval not implemented"
  else .calls (.extractGroupAccessList parms.groupName true true)

def respondToGroupAccessListDELETE (parms : GroupMgmtQueryParms) (request : HttpRequest) :
    Outcome :=
  withString parms.groupName fun groupName =>
  if groupName.length = 0 then .error httpStatusBadRequest "group name required"
  else withString parms.accessListEntryID fun accessListEntryID =>
  if accessListEntryID.length = 0 then
    .error httpStatusBadRequest "access list entry name required"
  else .calls (.removeFromGroup (some accessListEntryID) (some groupName)
    (getDryRunValue request) true true)

def serveGroupManagement (request : HttpRequest) : Outcome :=
  if isGroupMgmtQueryStringValid request.parsedFile = false then
    .error httpStatusBadRequest "Incorrect query"
  else
    let commonParms := extractGroupMgmtQueryParms request.parsedFile
    match getGroupMgmtRequstType request with
    | .groupGET => respondToGroupGET request
    | .groupPOST => respondToGroupPOST commonParms request
    | .groupDELETE => respondToGroupDELETE commonParms request
    | .accessListGET => respondToGroupAccessListGET commonParms
    | .accessListPUT => respondToGroupAccessListPUT commonParms request
    | .accessListDELETE => respondToGroupAccessListDELETE commonParms request
    | _ => .error httpStatusNotImplemented "Unsupported request"

/-! ## Objects -/

/-- What a path can name and an operation can be about. The default class has the empty name. -/
inductive ManagedObject where
  | profiles (className : Text)
  | profile (className profileName : Text)
  | profileAccessList (className profileName : Text)
  | profileAccess (className profileName entry : Text)
  | groups
  | group (groupName : Text)
  | groupAccessList (groupName : Text)
  | groupAccess (groupName entry : Text)

/-- The object a call of the client is about. The profiles of the administration calls are those of
the default class. -/
def objectOf : SecurityCall → Option ManagedObject
  | .extractGenresProfiles (some className) .. => some (.profiles className)
  | .extractGenresAccessList (some className) (some profile) .. =>
    some (.profileAccessList className profile)
  | .defineProfile (some profile) .. | .deleteProfile (some profile) .. =>
    some (.profile [] profile)
  | .giveAccessToProfile (some user) (some profile) ..
  | .revokeAccessToProfile (some user) (some profile) .. => some (.profileAccess [] profile user)
  | .extractGroupProfiles .. => some .groups
  | .extractGroupAccessList (some group) .. => some (.groupAccessList group)
  | .addGroup (some group) .. | .deleteGroup (some group) .. => some (.group group)
  | .connectToGroup (some user) (some group) .. | .removeFromGroup (some user) (some group) .. =>
    some (.groupAccess group user)
  | _ => none

/-- The string of a naming: a collection without a value has the empty one. -/
def Naming.string : Naming Text → Option Text
  | .absent => none
  | .bare => some []
  | .given value => some value

/-- The class a value names. -/
def classNamed (value : Text) : Text := if value = classMgmtAllowedClass then [] else value

/-- The object of a profile and an entry of a class; an empty one names the collection. -/
def classStringsObject (className : Text) : Option Text → Option Text → Option ManagedObject
  | none, _ => none
  | some [], none => some (.profiles className)
  | some profile, none => some (.profile className profile)
  | some profile, some [] => some (.profileAccessList className profile)
  | some profile, some entry => some (.profileAccess className profile entry)

/-- The object of a group and an entry; an empty one names the collection. -/
def groupStringsObject : Option Text → Option Text → Option ManagedObject
  | none, _ => none
  | some [], none => some .groups
  | some group, none => some (.group group)
  | some group, some [] => some (.groupAccessList group)
  | some group, some entry => some (.groupAccess group entry)

/-- The object of a class path. -/
def classObject : List (Naming Text) → Option ManagedObject
  | [.given className, profile, entry] =>
    classStringsObject (classNamed className) (Naming.string profile) (Naming.string entry)
  | _ => none

/-- The object of a group path. -/
def groupObject : List (Naming Text) → Option ManagedObject
  | [group, entry] => groupStringsObject (Naming.string group) (Naming.string entry)
  | _ => none

/-! ## The two services -/

inductive ManagementService where
  | classes
  | groups

namespace ManagementService

/-- The keywords of the service's grammar. -/
def keywords : ManagementService → List Text
  | .classes => ["classes".toList, "profiles".toList, "access-list".toList]
  | .groups => ["groups".toList, "access-list".toList]

/-- The path is one of the service's grammar, and names the collections so. -/
def Parses (service : ManagementService) (path : List Text) (names : List (Naming Text)) : Prop :=
  ∃ rest, path = "security-mgmt".toList :: rest ∧ Names service.keywords rest names

def accepts : ManagementService → List Text → Bool
  | .classes => isClassMgmtQueryStringValid
  | .groups => isGroupMgmtQueryStringValid

/-- The strings the service extracts. -/
def extracts (service : ManagementService) (path : List Text) : List (Option Text) :=
  match service with
  | .classes =>
    let parms := extractClassMgmtQueryParms path
    [parms.className, parms.profileName, parms.accessListEntryID]
  | .groups =>
    let parms := extractGroupMgmtQueryParms path
    [parms.groupName, parms.accessListEntryID]

/-- The strings of a parse: the default class has the empty one. -/
def strings : ManagementService → List (Naming Text) → List (Option Text)
  | .classes, name :: names => (Naming.string name).map classNamed :: names.map Naming.string
  | _, names => names.map Naming.string

def choosesAccessList : ManagementService → HttpRequest → Bool
  | .classes, request => (getClassMgmtRequstType request).isAccessList
  | .groups, request => (getGroupMgmtRequstType request).isAccessList

def serve : ManagementService → HttpRequest → Outcome
  | .classes => serveClassManagement
  | .groups => serveGroupManagement

def object : ManagementService → List (Naming Text) → Option ManagedObject
  | .classes => classObject
  | .groups => groupObject

end ManagementService

/-- The parse names the access list, the last of the collections. -/
def NamesAccessList (names : List (Naming Text)) : Prop := ∀ name ∈ names.getLast?, name ≠ .absent

/-- The methods the services tell apart. -/
def IsKnownMethod (method : Text) : Prop :=
  method = methodGET ∨ method = methodPOST ∨ method = methodPUT ∨ method = methodDELETE

/-- A service routes a request as the grammar says. -/
structure Routed (service : ManagementService) (request : HttpRequest) : Prop where
  accepted : service.accepts request.parsedFile = true ↔
    ∃ names, service.Parses request.parsedFile names
  extracted : ∀ names, service.Parses request.parsedFile names →
    service.extracts request.parsedFile = service.strings names
  accessList : ∀ names, service.Parses request.parsedFile names →
    (service.choosesAccessList request = true ↔ NamesAccessList names)
  sameObject : ∀ call, service.serve request = .calls call →
    ∃ names, service.Parses request.parsedFile names ∧ objectOf call = service.object names

/-- A service routes a request as it is meant to: a method it does not know has no type, and the
retrieval of one group is left out. -/
structure RoutedByDesign (service : ManagementService) (request : HttpRequest) : Prop where
  accepted : service.accepts request.parsedFile = true ↔
    ∃ names, service.Parses request.parsedFile names
  parsedOnce : ∀ names names', service.Parses request.parsedFile names →
    service.Parses request.parsedFile names' → names = names'
  extracted : ∀ names, service.Parses request.parsedFile names →
    service.extracts request.parsedFile = service.strings names
  accessList : ∀ names, service.Parses request.parsedFile names →
    (service.choosesAccessList request = true ↔
      IsKnownMethod request.method ∧ NamesAccessList names)
  unknownMethod : ¬IsKnownMethod request.method → ∀ call, service.serve request ≠ .calls call
  sameObject : ∀ call, service.serve request = .calls call →
    ∃ names, service.Parses request.parsedFile names ∧
      (¬(request.method = methodGET ∧ ∃ group, service.object names = some (.group group)) →
        objectOf call = service.object names)

/-! ## The check of a path -/

theorem segmentAt_replicate (max i : Nat) : segmentAt (List.replicate max none) i = none := by
  unfold segmentAt
  rw [List.getD_eq_getElem?_getD, List.getElem?_replicate]
  split
  · rfl
  · rfl

/-- **The segments.** The array holds the path, as far as it goes. -/
theorem segmentAt_fillSegments {max i : Nat} (inside : i < max) (path : List Text) :
    segmentAt (fillSegments max path) i = path[i]? := by
  induction max generalizing i path with
  | zero => cases inside
  | succ max ih =>
    cases path with
    | nil =>
      rw [fillSegments, segmentAt_replicate, List.getElem?_nil]
    | cons pathSegment path =>
      cases i with
      | zero => rfl
      | succ i => exact ih (Nat.lt_of_succ_lt_succ inside) path

/-- Keywords with the places of their segments. -/
def placed (keywords : List Text) : List (Nat × Text) :=
  keywords.zipIdx.map fun (keyword, i) => (2 * i + 1, keyword)

theorem mem_placed_iff {keywords : List Text} {id : Nat} {keyword : Text} :
    (id, keyword) ∈ placed keywords ↔ ∃ i, keywords[i]? = some keyword ∧ id = 2 * i + 1 := by
  unfold placed
  rw [List.mem_map]
  constructor
  · intro ⟨⟨keyword', i⟩, hmem, same⟩
    cases same
    exact ⟨i, List.mem_zipIdx_iff_getElem?.mp hmem, rfl⟩
  · intro ⟨i, at_i, same⟩
    subst same
    exact ⟨(keyword, i), List.mem_zipIdx_iff_getElem?.mpr at_i, rfl⟩

/-- The keywords' places in the array are those of the path after its service. -/
theorem placed_all_iff (keywords : List Text) (service : Text) (rest : List Text) :
    ((placed keywords).all fun (id, keyword) =>
        match segmentAt (fillSegments (2 * keywords.length + 1) (service :: rest)) id with
        | none => true
        | some segment => segment == keyword) = true ↔ KeywordsAgree keywords rest := by
  rw [List.all_eq_true]
  have atPlace : ∀ {i keyword}, keywords[i]? = some keyword →
      segmentAt (fillSegments (2 * keywords.length + 1) (service :: rest)) (2 * i + 1)
        = rest[2 * i]? := by
    intro i keyword at_i
    obtain ⟨inside, _⟩ := List.getElem?_eq_some_iff.mp at_i
    rw [segmentAt_fillSegments (by omega)]
    rfl
  constructor
  · intro all i keyword at_i segment hsegment
    have right := all (2 * i + 1, keyword) (mem_placed_iff.mpr ⟨i, at_i, rfl⟩)
    simp only [atPlace at_i, Option.mem_def.mp hsegment] at right
    exact beq_iff_eq.mp right
  · intro agree ⟨id, keyword⟩ hplaced
    obtain ⟨i, at_i, rfl⟩ := mem_placed_iff.mp hplaced
    simp only [atPlace at_i]
    split
    next => rfl
    next segment hsegment => exact beq_iff_eq.mpr (agree i keyword at_i segment hsegment)

/-- **The check.** It accepts the paths of the keywords' grammar, under the service's name. -/
theorem isMgmtQueryStringValid_iff (keywords path : List Text) :
    isMgmtQueryStringValid (2 * keywords.length + 1) (placed keywords) path = true ↔
      ∃ names rest, path = "security-mgmt".toList :: rest ∧ Names keywords rest names := by
  cases path with
  | nil =>
    constructor
    · intro h
      cases h
    · intro ⟨_, _, same, _⟩
      cases same
  | cons service rest =>
    have first : segmentAt (fillSegments (2 * keywords.length + 1) (service :: rest)) 0
        = some service := segmentAt_fillSegments (by omega) _
    have shape : (∃ names rest', service :: rest = "security-mgmt".toList :: rest' ∧
          Names keywords rest' names) ↔
        service = "security-mgmt".toList ∧ rest.length ≤ 2 * keywords.length ∧
          KeywordsAgree keywords rest := by
      constructor
      · intro ⟨names, rest', same, parse⟩
        cases same
        exact ⟨rfl, (names_iff.mp parse).1, (names_iff.mp parse).2.1⟩
      · intro ⟨same, short, agree⟩
        subst same
        exact ⟨_, rest, rfl, names_iff.mpr ⟨short, agree, rfl⟩⟩
    rw [shape, ← placed_all_iff keywords service rest]
    unfold isMgmtQueryStringValid
    simp only [first, List.length_cons]
    by_cases hlong : 2 * keywords.length < rest.length
    · have long : ((rest.length + 1 < 1 : Bool) || (2 * keywords.length + 1 < rest.length + 1 : Bool))
          = true := by simp only [Bool.or_eq_true, decide_eq_true_eq]; omega
      rw [if_pos long]
      constructor
      · intro h
        cases h
      · intro h
        exact absurd h.2.1 (Nat.not_le_of_lt hlong)
    · have short : ¬((rest.length + 1 < 1 : Bool) || (2 * keywords.length + 1 < rest.length + 1 : Bool))
          = true := by simp only [Bool.or_eq_true, decide_eq_true_eq]; omega
      rw [if_neg short]
      split
      next hservice =>
        constructor
        · intro h
          cases h
        · intro h
          exact absurd h.1 hservice
      next hservice =>
        have same : service = "security-mgmt".toList := not_not.mp hservice
        constructor
        · intro all
          exact ⟨same, Nat.le_of_not_lt hlong, all⟩
        · intro h
          exact h.2.2

theorem ManagementService.accepts_iff (service : ManagementService) (path : List Text) :
    service.accepts path = true ↔ ∃ names, service.Parses path names := by
  cases service with
  | classes => exact isMgmtQueryStringValid_iff (keywords .classes) path
  | groups => exact isMgmtQueryStringValid_iff (keywords .groups) path

variable {path : List Text} {parms : ClassMgmtQueryParms}

theorem ManagementService.Parses.unique {service : ManagementService}
    {names names' : List (Naming Text)} (h : service.Parses path names)
    (h' : service.Parses path names') : names = names' := by
  obtain ⟨rest, rfl, parse⟩ := h
  obtain ⟨rest', same, parse'⟩ := h'
  cases same
  exact parse.unique parse'

/-! ## What is extracted -/

/-- The value after a keyword is that of its collection. -/
theorem segmentValue_fillSegments {max i : Nat} (inside : 2 * i + 2 < max) (service : Text)
    (rest : List Text) :
    segmentValue (fillSegments max (service :: rest)) (2 * i + 1)
      = Naming.string (namingAt rest i) := by
  unfold segmentValue namingAt
  rw [segmentAt_fillSegments (by omega), segmentAt_fillSegments (by omega)]
  show (if (rest[2 * i]?.isSome && rest[2 * i + 1]?.isNone) = true then some []
    else rest[2 * i + 1]?) = _
  cases hkeyword : rest[2 * i]? with
  | none =>
    have after : rest[2 * i + 1]? = none :=
      List.getElem?_eq_none (Nat.le_succ_of_le (List.getElem?_eq_none_iff.mp hkeyword))
    rw [after]
    rfl
  | some keyword =>
    cases rest[2 * i + 1]? with
    | none => rfl
    | some value => rfl

/-- What a parse of a class path says at the three places. -/
theorem parses_classes {names : List (Naming Text)}
    (parse : ManagementService.classes.Parses path names) :
    ∃ rest, path = "security-mgmt".toList :: rest ∧
      names = [namingAt rest 0, namingAt rest 1, namingAt rest 2] := by
  obtain ⟨rest, same, parse⟩ := parse
  exact ⟨rest, same, (names_iff.mp parse).2.2⟩

theorem parses_groups {names : List (Naming Text)}
    (parse : ManagementService.groups.Parses path names) :
    ∃ rest, path = "security-mgmt".toList :: rest ∧
      names = [namingAt rest 0, namingAt rest 1] := by
  obtain ⟨rest, same, parse⟩ := parse
  exact ⟨rest, same, (names_iff.mp parse).2.2⟩

theorem extractClassMgmtQueryParms_eq (service : Text) (rest : List Text) :
    extractClassMgmtQueryParms (service :: rest) =
      { className := (Naming.string (namingAt rest 0)).map classNamed
        profileName := Naming.string (namingAt rest 1)
        accessListEntryID := Naming.string (namingAt rest 2) } := by
  have first := @segmentValue_fillSegments 7 0 (by omega) service rest
  have second := @segmentValue_fillSegments 7 1 (by omega) service rest
  have third := @segmentValue_fillSegments 7 2 (by omega) service rest
  have normal : (if Naming.string (namingAt rest 0) = some classMgmtAllowedClass then some []
      else Naming.string (namingAt rest 0)) = (Naming.string (namingAt rest 0)).map classNamed := by
    cases Naming.string (namingAt rest 0) with
    | none => rfl
    | some value =>
      rw [Option.map_some, classNamed]
      by_cases allowed : value = classMgmtAllowedClass
      · rw [if_pos (congrArg some allowed), if_pos allowed]
      · rw [if_neg (fun same => allowed (Option.some.inj same)), if_neg allowed]
  rw [← normal, ← first, ← second, ← third]
  rfl

theorem extractGroupMgmtQueryParms_eq (service : Text) (rest : List Text) :
    extractGroupMgmtQueryParms (service :: rest) =
      { groupName := Naming.string (namingAt rest 0)
        accessListEntryID := Naming.string (namingAt rest 1) } := by
  have first := @segmentValue_fillSegments 5 0 (by omega) service rest
  have second := @segmentValue_fillSegments 5 1 (by omega) service rest
  rw [← first, ← second]
  rfl

theorem ManagementService.extracts_eq (service : ManagementService) {names : List (Naming Text)}
    (parse : service.Parses path names) : service.extracts path = service.strings names := by
  cases service with
  | classes =>
    obtain ⟨rest, rfl, rfl⟩ := parses_classes parse
    unfold extracts
    rw [extractClassMgmtQueryParms_eq]
    rfl
  | groups =>
    obtain ⟨rest, rfl, rfl⟩ := parses_groups parse
    unfold extracts
    rw [extractGroupMgmtQueryParms_eq]
    rfl

/-! ## The type of a request -/

theorem Naming.string_eq_none_iff (name : Naming Text) :
    Naming.string name = none ↔ name = .absent := by
  cases name with
  | absent => exact ⟨fun _ => rfl, fun _ => rfl⟩
  | bare => exact ⟨nofun, nofun⟩
  | given value => exact ⟨nofun, nofun⟩

theorem Naming.exists_string {name : Naming Text} (present : name ≠ .absent) :
    ∃ text, Naming.string name = some text :=
  Option.ne_none_iff_exists'.mp fun h => present ((Naming.string_eq_none_iff _).mp h)

/-- The last name tells whether the access list is named. -/
theorem namesAccessList_iff {names : List (Naming Text)} {last : Naming Text}
    (h : names.getLast? = some last) : NamesAccessList names ↔ last ≠ .absent := by
  constructor
  · intro named
    exact named _ h
  · intro present name hlast
    obtain rfl := Option.some.inj (h.symm.trans hlast)
    exact present

/-- The type told from the method is one of the four for the known methods, and the unknown one for
the others. -/
theorem methodLadder {τ : Type} (get post put delete unknown : τ) (method : Text) :
    let type := if method = methodGET then get else if method = methodPOST then post
      else if method = methodPUT then put else if method = methodDELETE then delete else unknown
    IsKnownMethod method ∧ type ∈ [get, post, put, delete] ∨
      ¬IsKnownMethod method ∧ type = unknown := by
  intro type
  by_cases isGet : method = methodGET
  · have found : type = get := if_pos isGet
    exact .inl ⟨.inl isGet, by simp [found]⟩
  by_cases isPost : method = methodPOST
  · have found : type = post := (if_neg isGet).trans (if_pos isPost)
    exact .inl ⟨.inr (.inl isPost), by simp [found]⟩
  by_cases isPut : method = methodPUT
  · have found : type = put := (if_neg isGet).trans ((if_neg isPost).trans (if_pos isPut))
    exact .inl ⟨.inr (.inr (.inl isPut)), by simp [found]⟩
  by_cases isDelete : method = methodDELETE
  · have found : type = delete := (if_neg isGet).trans
      ((if_neg isPost).trans ((if_neg isPut).trans (if_pos isDelete)))
    exact .inl ⟨.inr (.inr (.inr isDelete)), by simp [found]⟩
  have found : type = unknown := (if_neg isGet).trans
    ((if_neg isPost).trans ((if_neg isPut).trans (if_neg isDelete)))
  refine .inr ⟨?_, found⟩
  intro known
  rcases known with known | known | known | known
  · exact isGet known
  · exact isPost known
  · exact isPut known
  · exact isDelete known

/-- What the type of a class request says: which strings there are, and that the method is known. -/
inductive ClassTyped (request : HttpRequest) : ClassMgmtRequestType → Prop
  | accessList {type : ClassMgmtRequestType} {className profileName entry : Text} :
    IsKnownMethod request.method →
    extractClassMgmtQueryParms request.parsedFile =
      ⟨some className, some profileName, some entry⟩ →
    type ∈ [.accessListGET, .accessListPOST, .accessListPUT, .accessListDELETE] →
    ClassTyped request type
  | profile {type : ClassMgmtRequestType} {className profileName : Text} :
    IsKnownMethod request.method →
    extractClassMgmtQueryParms request.parsedFile = ⟨some className, some profileName, none⟩ →
    type ∈ [.profileGET, .profilePOST, .profilePUT, .profileDELETE] →
    ClassTyped request type
  | unknown :
    (IsKnownMethod request.method → ∀ className profileName entry,
      extractClassMgmtQueryParms request.parsedFile ≠
        ⟨some className, some profileName, some entry⟩) →
    ClassTyped request .unknownRequest

theorem getClassMgmtRequstType_typed (request : HttpRequest) :
    ClassTyped request (getClassMgmtRequstType request) := by
  unfold getClassMgmtRequstType
  split
  next className profileName entry given =>
    rcases methodLadder ClassMgmtRequestType.accessListGET .accessListPOST .accessListPUT
      .accessListDELETE .unknownRequest request.method with ⟨known, found⟩ | ⟨strange, found⟩
    · exact .accessList known given found
    · rw [found]
      exact .unknown fun known => absurd known strange
  next className profileName given =>
    have noEntry : ∀ className profileName entry, extractClassMgmtQueryParms request.parsedFile ≠
        ⟨some className, some profileName, some entry⟩ := by
      intro _ _ _ given'
      rw [given] at given'
      cases given'
    rcases methodLadder ClassMgmtRequestType.profileGET .profilePOST .profilePUT
      .profileDELETE .unknownRequest request.method with ⟨known, found⟩ | ⟨_, found⟩
    · exact .profile known given found
    · rw [found]
      exact .unknown fun _ => noEntry
  next other _ => exact .unknown fun _ => other

/-- What the type of a group request says. The groups are listed for one type only. -/
inductive GroupTyped (request : HttpRequest) : GroupMgmtRequestType → Prop
  | accessList {type : GroupMgmtRequestType} {groupName entry : Text} :
    IsKnownMethod request.method →
    extractGroupMgmtQueryParms request.parsedFile = ⟨some groupName, some entry⟩ →
    type ∈ [.accessListGET, .accessListPOST, .accessListPUT, .accessListDELETE] →
    GroupTyped request type
  | group {type : GroupMgmtRequestType} {groupName : Text} :
    IsKnownMethod request.method →
    extractGroupMgmtQueryParms request.parsedFile = ⟨some groupName, none⟩ →
    type ∈ [.groupGET, .groupPOST, .groupPUT, .groupDELETE] →
    (type = .groupGET → request.method = methodGET) →
    GroupTyped request type
  | unknown :
    (IsKnownMethod request.method → ∀ groupName entry,
      extractGroupMgmtQueryParms request.parsedFile ≠ ⟨some groupName, some entry⟩) →
    GroupTyped request .unknownRequest

theorem getGroupMgmtRequstType_typed (request : HttpRequest) :
    GroupTyped request (getGroupMgmtRequstType request) := by
  unfold getGroupMgmtRequstType
  split
  next groupName entry given =>
    rcases methodLadder GroupMgmtRequestType.accessListGET .accessListPOST .accessListPUT
      .accessListDELETE .unknownRequest request.method with ⟨known, found⟩ | ⟨strange, found⟩
    · exact .accessList known given found
    · rw [found]
      exact .unknown fun known => absurd known strange
  next groupName given =>
    have noEntry : ∀ groupName entry, extractGroupMgmtQueryParms request.parsedFile ≠
        ⟨some groupName, some entry⟩ := by
      intro _ _ given'
      rw [given] at given'
      cases given'
    rcases methodLadder GroupMgmtRequestType.groupGET .groupPOST .groupPUT
      .groupDELETE .unknownRequest request.method with ⟨known, found⟩ | ⟨_, found⟩
    · refine .group known given found ?_
      intro isGet
      by_contra other
      rw [if_neg other] at isGet
      split at isGet
      · cases isGet
      · split at isGet
        · cases isGet
        · split at isGet
          · cases isGet
          · cases isGet
    · rw [found]
      exact .unknown fun _ => noEntry
  next other _ => exact .unknown fun _ => other

/-- An access list type, told from the strings. -/
theorem ManagementService.choosesAccessList_iff (service : ManagementService)
    (request : HttpRequest) {names : List (Naming Text)}
    (parse : service.Parses request.parsedFile names) :
    service.choosesAccessList request = true ↔
      IsKnownMethod request.method ∧ NamesAccessList names := by
  cases service with
  | classes =>
    obtain ⟨rest, path, rfl⟩ := parses_classes parse
    have strings := extractClassMgmtQueryParms_eq "security-mgmt".toList rest
    rw [← path] at strings
    rw [@namesAccessList_iff _ (namingAt rest 2) rfl]
    show (getClassMgmtRequstType request).isAccessList = true ↔ _
    have typed := getClassMgmtRequstType_typed request
    generalize getClassMgmtRequstType request = type at typed
    cases typed with
    | accessList known given found =>
      rw [strings, ClassMgmtQueryParms.mk.injEq] at given
      have present : namingAt rest 2 ≠ .absent := by
        intro absent
        rw [absent] at given
        cases given.2.2
      have accessList : type.isAccessList = true := by
        revert type
        decide
      exact ⟨fun _ => ⟨known, present⟩, fun _ => accessList⟩
    | profile known given found =>
      rw [strings, ClassMgmtQueryParms.mk.injEq] at given
      have absent := (Naming.string_eq_none_iff _).mp given.2.2
      have profile : type.isAccessList = false := by
        revert type
        decide
      rw [profile]
      exact ⟨Bool.noConfusion, fun h => absurd absent h.2⟩
    | unknown noEntry =>
      refine ⟨Bool.noConfusion, ?_⟩
      intro ⟨known, present⟩
      obtain ⟨profileName, hprofile⟩ := given_of_named present
      obtain ⟨className, hclass⟩ := given_of_named (i := 0) (by rw [hprofile]; nofun)
      obtain ⟨entry, hentry⟩ := Naming.exists_string present
      refine absurd ?_ (noEntry known (classNamed className) profileName entry)
      rw [strings, hclass, hprofile, hentry]
      rfl
  | groups =>
    obtain ⟨rest, path, rfl⟩ := parses_groups parse
    have strings := extractGroupMgmtQueryParms_eq "security-mgmt".toList rest
    rw [← path] at strings
    rw [@namesAccessList_iff _ (namingAt rest 1) rfl]
    show (getGroupMgmtRequstType request).isAccessList = true ↔ _
    have typed := getGroupMgmtRequstType_typed request
    generalize getGroupMgmtRequstType request = type at typed
    cases typed with
    | accessList known given found =>
      rw [strings, GroupMgmtQueryParms.mk.injEq] at given
      have present : namingAt rest 1 ≠ .absent := by
        intro absent
        rw [absent] at given
        cases given.2
      have accessList : type.isAccessList = true := by
        revert type
        decide
      exact ⟨fun _ => ⟨known, present⟩, fun _ => accessList⟩
    | group known given found isGet =>
      rw [strings, GroupMgmtQueryParms.mk.injEq] at given
      have absent := (Naming.string_eq_none_iff _).mp given.2
      have group : type.isAccessList = false := by
        clear isGet
        revert type
        decide
      rw [group]
      exact ⟨Bool.noConfusion, fun h => absurd absent h.2⟩
    | unknown noEntry =>
      refine ⟨Bool.noConfusion, ?_⟩
      intro ⟨known, present⟩
      obtain ⟨groupName, hgroup⟩ := given_of_named present
      obtain ⟨entry, hentry⟩ := Naming.exists_string present
      refine absurd ?_ (noEntry known groupName entry)
      rw [strings, hgroup, hentry]
      rfl

/-! ## The handlers -/

theorem withString_calls {string : Option Text} {next : Text → Outcome} {call : SecurityCall}
    (h : withString string next = .calls call) :
    ∃ text, string = some text ∧ next text = .calls call := by
  cases string with
  | none => cases h
  | some text => exact ⟨text, rfl, h⟩

/-- A string that is read and refused where `refuse` holds of it was accepted before a call. -/
theorem guardedString_calls {string : Option Text} {refuse : Text → Prop} [DecidablePred refuse]
    {status : Nat} {message : String} {next : Text → Outcome} {call : SecurityCall}
    (h : withString string (fun text => if refuse text then .error status message else next text)
      = .calls call) :
    ∃ text, string = some text ∧ ¬refuse text ∧ next text = .calls call := by
  obtain ⟨text, htext, h⟩ := withString_calls h
  split at h
  next => cases h
  next accepted => exact ⟨text, htext, accepted, h⟩

theorem withAccessType_calls {request : HttpRequest} {isKnown : Text → Bool} {unknown : String}
    {next : Outcome} {call : SecurityCall}
    (h : withAccessType request isKnown unknown next = .calls call) : next = .calls call := by
  unfold withAccessType at h
  split at h
  · cases h
  · split at h
    · cases h
    · split at h
      · cases h
      · split at h
        · exact h
        · cases h

theorem eq_nil_of_not_pos {text : Text} (h : ¬text.length > 0) : text = [] :=
  List.eq_nil_of_length_eq_zero (Nat.eq_zero_of_not_pos h)

theorem classStringsObject_profile (className : Text) {profile : Text} (h : ¬profile.length = 0) :
    classStringsObject className (some profile) none = some (.profile className profile) := by
  cases profile with
  | nil => exact absurd rfl h
  | cons first rest => rfl

theorem classStringsObject_access (className profile : Text) {entry : Text}
    (h : ¬entry.length = 0) :
    classStringsObject className (some profile) (some entry)
      = some (.profileAccess className profile entry) := by
  cases entry with
  | nil => exact absurd rfl h
  | cons first rest => cases profile with
    | nil => rfl
    | cons _ _ => rfl

theorem classStringsObject_list (className profile : Text) :
    classStringsObject className (some profile) (some [])
      = some (.profileAccessList className profile) := by
  cases profile with
  | nil => rfl
  | cons first rest => rfl

theorem groupStringsObject_group {group : Text} (h : ¬group.length = 0) :
    groupStringsObject (some group) none = some (.group group) := by
  cases group with
  | nil => exact absurd rfl h
  | cons first rest => rfl

theorem groupStringsObject_access (group : Text) {entry : Text} (h : ¬entry.length = 0) :
    groupStringsObject (some group) (some entry) = some (.groupAccess group entry) := by
  cases entry with
  | nil => exact absurd rfl h
  | cons first rest => cases group with
    | nil => rfl
    | cons _ _ => rfl

theorem groupStringsObject_list (group : Text) :
    groupStringsObject (some group) (some []) = some (.groupAccessList group) := by
  cases group with
  | nil => rfl
  | cons first rest => rfl

section
variable {request : HttpRequest} {call : SecurityCall}

/-- A class handler comes to a call for the default class only, and the call is about the object of
the strings the handler reads. -/
def CallsAbout (className profile entry : Option Text) (call : SecurityCall) : Prop :=
  className = some [] ∧ objectOf call = classStringsObject [] profile entry

theorem respondToProfileGET_calls (h : respondToProfileGET parms request = .calls call) :
    CallsAbout parms.className parms.profileName none call := by
  obtain ⟨className, hclass, noClass, h⟩ := guardedString_calls h
  obtain ⟨profileName, hprofile, noProfile, h⟩ := guardedString_calls h
  dsimp only at h
  split at h
  next => cases h
  next =>
  cases h
  rw [CallsAbout, hclass, hprofile, eq_nil_of_not_pos noClass, eq_nil_of_not_pos noProfile]
  exact ⟨rfl, rfl⟩

theorem respondToProfilePOST_calls (h : respondToProfilePOST parms request = .calls call) :
    CallsAbout parms.className parms.profileName none call := by
  obtain ⟨className, hclass, noClass, h⟩ := guardedString_calls h
  obtain ⟨profileName, hprofile, someProfile, h⟩ := guardedString_calls h
  cases h
  rw [CallsAbout, hclass, hprofile, eq_nil_of_not_pos noClass,
    classStringsObject_profile [] someProfile]
  exact ⟨rfl, rfl⟩

theorem respondToProfileDELETE_calls (h : respondToProfileDELETE parms request = .calls call) :
    CallsAbout parms.className parms.profileName none call := by
  obtain ⟨className, hclass, noClass, h⟩ := guardedString_calls h
  obtain ⟨profileName, hprofile, someProfile, h⟩ := guardedString_calls h
  cases h
  rw [CallsAbout, hclass, hprofile, eq_nil_of_not_pos noClass,
    classStringsObject_profile [] someProfile]
  exact ⟨rfl, rfl⟩

theorem respondToProfileAccessListPUT_calls
    (h : respondToProfileAccessListPUT parms request = .calls call) :
    CallsAbout parms.className parms.profileName parms.accessListEntryID call := by
  obtain ⟨className, hclass, noClass, h⟩ := guardedString_calls h
  obtain ⟨profileName, hprofile, -, h⟩ := guardedString_calls h
  obtain ⟨entry, hentry, someEntry, h⟩ := guardedString_calls h
  cases withAccessType_calls h
  rw [CallsAbout, hclass, hprofile, hentry, eq_nil_of_not_pos noClass,
    classStringsObject_access [] profileName someEntry]
  exact ⟨rfl, rfl⟩

theorem respondToProfileAccessListGET_calls {profileName : Text}
    (hprofile : parms.profileName = some profileName)
    (h : respondToProfileAccessListGET parms = .calls call) :
    CallsAbout parms.className parms.profileName parms.accessListEntryID call := by
  obtain ⟨className, hclass, noClass, h⟩ := guardedString_calls h
  obtain ⟨entry, hentry, noEntry, h⟩ := guardedString_calls h
  cases h
  rw [CallsAbout, hclass, hprofile, hentry, eq_nil_of_not_pos noClass, eq_nil_of_not_pos noEntry,
    classStringsObject_list]
  exact ⟨rfl, rfl⟩

theorem respondToProfileAccessListDELETE_calls
    (h : respondToProfileAccessListDELETE parms request = .calls call) :
    CallsAbout parms.className parms.profileName parms.accessListEntryID call := by
  obtain ⟨className, hclass, noClass, h⟩ := guardedString_calls h
  obtain ⟨profileName, hprofile, -, h⟩ := guardedString_calls h
  obtain ⟨entry, hentry, someEntry, h⟩ := guardedString_calls h
  cases h
  rw [CallsAbout, hclass, hprofile, hentry, eq_nil_of_not_pos noClass,
    classStringsObject_access [] profileName someEntry]
  exact ⟨rfl, rfl⟩

theorem respondToGroupGET_calls (h : respondToGroupGET request = .calls call) :
    objectOf call = some .groups := by
  unfold respondToGroupGET at h
  dsimp only at h
  split at h
  next => cases h
  next =>
  cases h
  rfl

theorem respondToGroupPOST_calls {parms : GroupMgmtQueryParms}
    (h : respondToGroupPOST parms request = .calls call) :
    objectOf call = groupStringsObject parms.groupName none := by
  obtain ⟨groupName, hgroup, someGroup, h⟩ := guardedString_calls h
  rw [hgroup, groupStringsObject_group someGroup]
  split at h
  · cases h
  · split at h
    · cases h
    · split at h
      · cases h
      · cases h
        rfl

theorem respondToGroupDELETE_calls {parms : GroupMgmtQueryParms}
    (h : respondToGroupDELETE parms request = .calls call) :
    objectOf call = groupStringsObject parms.groupName none := by
  obtain ⟨groupName, hgroup, someGroup, h⟩ := guardedString_calls h
  cases h
  rw [hgroup, groupStringsObject_group someGroup]
  rfl

theorem respondToGroupAccessListPUT_calls {parms : GroupMgmtQueryParms}
    (h : respondToGroupAccessListPUT parms request = .calls call) :
    objectOf call = groupStringsObject parms.groupName parms.accessListEntryID := by
  obtain ⟨groupName, hgroup, -, h⟩ := guardedString_calls h
  obtain ⟨entry, hentry, someEntry, h⟩ := guardedString_calls h
  cases withAccessType_calls h
  rw [hgroup, hentry, groupStringsObject_access groupName someEntry]
  rfl

theorem respondToGroupAccessListGET_calls {parms : GroupMgmtQueryParms} {groupName : Text}
    (hgroup : parms.groupName = some groupName)
    (h : respondToGroupAccessListGET parms = .calls call) :
    objectOf call = groupStringsObject parms.groupName parms.accessListEntryID := by
  obtain ⟨entry, hentry, noEntry, h⟩ := guardedString_calls h
  cases h
  rw [hgroup, hentry, eq_nil_of_not_pos noEntry, groupStringsObject_list]
  rfl

theorem respondToGroupAccessListDELETE_calls {parms : GroupMgmtQueryParms}
    (h : respondToGroupAccessListDELETE parms request = .calls call) :
    objectOf call = groupStringsObject parms.groupName parms.accessListEntryID := by
  obtain ⟨groupName, hgroup, -, h⟩ := guardedString_calls h
  obtain ⟨entry, hentry, someEntry, h⟩ := guardedString_calls h
  cases h
  rw [hgroup, hentry, groupStringsObject_access groupName someEntry]
  rfl

/-- **Class management.** A request that comes to a call has a path of the grammar and a known
method, and the call is about the object of its strings. -/
theorem serveClassManagement_calls (h : serveClassManagement request = .calls call) :
    isClassMgmtQueryStringValid request.parsedFile = true ∧ IsKnownMethod request.method ∧
      let parms := extractClassMgmtQueryParms request.parsedFile
      parms.profileName.isSome ∧
        CallsAbout parms.className parms.profileName parms.accessListEntryID call := by
  unfold serveClassManagement at h
  split at h
  next => cases h
  next hvalid =>
  refine ⟨Bool.eq_true_of_not_eq_false hvalid, ?_⟩
  have typed := getClassMgmtRequstType_typed request
  generalize getClassMgmtRequstType request = type at typed h
  dsimp only at h ⊢
  cases typed with
  | accessList known given found =>
    rw [given] at h ⊢
    refine ⟨known, rfl, ?_⟩
    simp only [List.mem_cons, List.not_mem_nil, or_false] at found
    rcases found with rfl | rfl | rfl | rfl
    · exact respondToProfileAccessListGET_calls rfl h
    · cases h
    · exact respondToProfileAccessListPUT_calls h
    · exact respondToProfileAccessListDELETE_calls h
  | profile known given found =>
    rw [given] at h ⊢
    refine ⟨known, rfl, ?_⟩
    simp only [List.mem_cons, List.not_mem_nil, or_false] at found
    rcases found with rfl | rfl | rfl | rfl
    · exact respondToProfileGET_calls h
    · exact respondToProfilePOST_calls h
    · cases h
    · exact respondToProfileDELETE_calls h
  | unknown => cases h

/-- **Group management.** A request that comes to a call has a path of the grammar and a known
method, and the call is about the object of its strings or lists all groups. -/
theorem serveGroupManagement_calls (h : serveGroupManagement request = .calls call) :
    isGroupMgmtQueryStringValid request.parsedFile = true ∧ IsKnownMethod request.method ∧
      let parms := extractGroupMgmtQueryParms request.parsedFile
      objectOf call = groupStringsObject parms.groupName parms.accessListEntryID ∨
        request.method = methodGET ∧ parms.groupName.isSome ∧ parms.accessListEntryID = none ∧
          objectOf call = some .groups := by
  unfold serveGroupManagement at h
  split at h
  next => cases h
  next hvalid =>
  refine ⟨Bool.eq_true_of_not_eq_false hvalid, ?_⟩
  have typed := getGroupMgmtRequstType_typed request
  generalize getGroupMgmtRequstType request = type at typed h
  dsimp only at h ⊢
  cases typed with
  | accessList known given found =>
    rw [given] at h ⊢
    refine ⟨known, .inl ?_⟩
    simp only [List.mem_cons, List.not_mem_nil, or_false] at found
    rcases found with rfl | rfl | rfl | rfl
    · exact respondToGroupAccessListGET_calls rfl h
    · cases h
    · exact respondToGroupAccessListPUT_calls h
    · exact respondToGroupAccessListDELETE_calls h
  | group known given found isGet =>
    rw [given] at h ⊢
    refine ⟨known, ?_⟩
    simp only [List.mem_cons, List.not_mem_nil, or_false] at found
    rcases found with rfl | rfl | rfl | rfl
    · exact .inr ⟨isGet rfl, rfl, rfl, respondToGroupGET_calls h⟩
    · exact .inl (respondToGroupPOST_calls h)
    · cases h
    · exact .inl (respondToGroupDELETE_calls h)
  | unknown => cases h

end

/-! ## The routes -/

/-- The object of a class path whose strings name the default class and a profile. -/
theorem classObject_default {rest : List Text}
    (className : (Naming.string (namingAt rest 0)).map classNamed = some [])
    (profile : (Naming.string (namingAt rest 1)).isSome) :
    classObject [namingAt rest 0, namingAt rest 1, namingAt rest 2] =
      classStringsObject [] (Naming.string (namingAt rest 1))
        (Naming.string (namingAt rest 2)) := by
  have named : namingAt rest 1 ≠ .absent := by
    intro absent
    rw [absent] at profile
    cases profile
  obtain ⟨value, given⟩ := given_of_named (i := 0) named
  rw [given] at className ⊢
  have isDefault : classNamed value = [] := Option.some.inj className
  show classStringsObject (classNamed value) _ _ = _
  rw [isDefault]

/-- **Calls.** A call comes from a path of the grammar and a known method, and is about the object
the path names, unless it is the retrieval of one group. -/
theorem ManagementService.serve_calls (service : ManagementService) {request : HttpRequest}
    {call : SecurityCall} (h : service.serve request = .calls call) :
    IsKnownMethod request.method ∧ ∃ names, service.Parses request.parsedFile names ∧
      (¬(request.method = methodGET ∧ ∃ group, service.object names = some (.group group)) →
        objectOf call = service.object names) := by
  cases service with
  | classes =>
    obtain ⟨valid, known, profile, className, object⟩ := serveClassManagement_calls h
    obtain ⟨names, parse⟩ := (accepts_iff .classes request.parsedFile).mp valid
    refine ⟨known, names, parse, fun _ => ?_⟩
    obtain ⟨rest, path, rfl⟩ := parses_classes parse
    rw [path, extractClassMgmtQueryParms_eq] at profile className object
    exact object.trans (classObject_default className profile).symm
  | groups =>
    obtain ⟨valid, known, object⟩ := serveGroupManagement_calls h
    obtain ⟨names, parse⟩ := (accepts_iff .groups request.parsedFile).mp valid
    refine ⟨known, names, parse, fun notOneGroup => ?_⟩
    obtain ⟨rest, path, rfl⟩ := parses_groups parse
    rw [path, extractGroupMgmtQueryParms_eq] at object
    dsimp only at object
    rcases object with object | ⟨isGet, group, entry, object⟩
    · exact object
    · obtain ⟨groupName, hgroup⟩ := Option.isSome_iff_exists.mp group
      have named : ManagementService.groups.object [namingAt rest 0, namingAt rest 1]
          = groupStringsObject (some groupName) none := by
        show groupStringsObject _ _ = _
        rw [hgroup, entry]
      rw [named] at notOneGroup ⊢
      -- a group with a name is the retrieval left out
      cases groupName with
      | nil => exact object
      | cons first last => exact absurd ⟨isGet, _, rfl⟩ notOneGroup

/-- **The routes.** Both services accept the paths of their grammars, extract the strings of the
parse, choose an access list type for the paths that name the access list, under a known method,
and operate on what the path names. -/
theorem routes_by_design (service : ManagementService) (request : HttpRequest) :
    RoutedByDesign service request where
  accepted := service.accepts_iff request.parsedFile
  parsedOnce _ _ parse parse' := parse.unique parse'
  extracted _ parse := service.extracts_eq parse
  accessList _ parse := service.choosesAccessList_iff request parse
  unknownMethod strange _ h := strange (service.serve_calls h).1
  sameObject _ h := (service.serve_calls h).2

/-- A request for the access list of a profile, with a method the services do not know. -/
def patchAccessList : HttpRequest where
  parsedFile := ["security-mgmt".toList, "classes".toList, "default-class".toList,
    "profiles".toList, "ZSS".toList, "access-list".toList]
  method := "PATCH".toList
  start := none
  count := none
  dryRun := none
  requestBody := none

theorem unknown_method_unrouted : ¬Routed .classes patchAccessList := by
  intro routed
  have parse : ManagementService.classes.Parses patchAccessList.parsedFile
      [.given "default-class".toList, .given "ZSS".toList, .bare] :=
    ⟨_, rfl, .given _ _ (.given _ _ (.bare _ []))⟩
  have chosen := (routed.accessList _ parse).mpr (by rintro name ⟨⟩; nofun)
  revert chosen
  decide

end Zss.Security.Routing
