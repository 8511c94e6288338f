import Zss.Lib.Image
import Zss.Tss.AdminCommands

/-!
# The parm lists of R_admin

`constructResAdminParmList`, `constructGroupAdminParmList` and `constructConnectionAdminParmList`
in `secmgmt.c`, and `zisGenresProfileAdminServiceFunctionRACF` and
`zisGroupAdminServiceFunctionRACF` as far as the parm list they build. The records they fill and the
masks they raise are the common library's, and parameters here: `RadminLayout`.

A constructor has no result where it reads a string that is not there, or goes past an array.
-/

namespace Zss.Racf

open Zss.Lib (Byte Image hasFlag)
open Zss.Tss (Text CountedText GenresAdminParmList GroupAdminParmList AdminRequest
  validateGenresParmList validateGroupParmList rcZisGsadmnsrvOk rcZisGsadmnsrvBadFunction
  rcZisGsadmnsrvImpersonationMissing rcZisGsadmnsrvUserClassTooLong rcZisGsadmnsrvUserClassNotRead
  rcZisGrpasrvOk rcZisGrpasrvBadFunction rcZisGrpasrvImpersonationMissing zisUserIdMaxLength
  zisSecurityClassMaxLength zisSecurityProfileMaxLength zisSecurityGroupMaxLength
  zisGroupAdminFlagDryrun zisGenresAdminSrvFcDefine zisGenresAdminSrvFcDelete
  zisGenresAdminSrvFcGiveAccess zisGenresAdminSrvFcRevokeAccess zisGenresAdminAccessTypeRead
  zisGenresAdminAccessTypeUpdate zisGenresAdminAccessTypeAlter zisGroupAdminSrvFcAdd
  zisGroupAdminSrvFcDelete zisGroupAdminSrvFcConnectUser zisGroupAdminSrvFcRemoveUser)

/-! ## Constants -/

def rcZisGsadmnsrvParmInternalError : Int := 18
def rcZisGrpasrvParmInternalError : Int := 18

def zisGenresAdminFlagDryrun : BitVec 32 := 1#32

def zisGroupAdminAccessTypeUse : Int := 0
def zisGroupAdminAccessTypeCreate : Int := 1
def zisGroupAdminAccessTypeConnect : Int := 2
def zisGroupAdminAccessTypeJoin : Int := 3

def resParmlistMinSize : Nat := 1024
def groupParmlistMinSize : Nat := 1024
def parmListBufferSize : Nat := 2048

/-! ## Records -/

/-- A member of a record. -/
structure Member where
  offset : Nat
  size : Nat

/-- Members that share no byte. -/
def Member.Apart (m n : Member) : Prop :=
  m.offset + m.size ≤ n.offset ∨ n.offset + n.size ≤ m.offset

def Member.Inside (m : Member) (size : Nat) : Prop := m.offset + m.size ≤ size

/-- `RadminSegment` and `RadminField`: a name of eight characters, a flag with the mask that is
raised in it, and the count of the fields, or of the data, that come after the record. -/
structure EntryLayout where
  size : Nat
  name : Member
  flag : Member
  count : Member
  flagY : List Byte
  name_size : name.size = 8
  flag_size : flag.size = flagY.length
  count_pos : 0 < count.size
  flag_pos : 0 < flag.size
  name_inside : name.Inside size
  flag_inside : flag.Inside size
  count_inside : count.Inside size
  name_flag : name.Apart flag
  name_count : name.Apart count
  flag_count : flag.Apart count
  size_le : size ≤ 64

/-- `RadminResParmList`, `RadminGroupParmList` and `RadminConnectionParmList`: the length of a name,
the name, flags with the two masks of a dry run, and the count of the segments that come after. -/
structure HeaderLayout where
  size : Nat
  nameLength : Member
  name : Member
  flags : Member
  segmentCount : Member
  norun : List Byte
  retcmd : List Byte
  name_size : name.size = 8
  norun_size : flags.size = norun.length
  retcmd_size : flags.size = retcmd.length
  nameLength_pos : 0 < nameLength.size
  flags_pos : 0 < flags.size
  segmentCount_pos : 0 < segmentCount.size
  nameLength_inside : nameLength.Inside size
  name_inside : name.Inside size
  flags_inside : flags.Inside size
  segmentCount_inside : segmentCount.Inside size
  nameLength_name : nameLength.Apart name
  nameLength_flags : nameLength.Apart flags
  nameLength_segmentCount : nameLength.Apart segmentCount
  name_flags : name.Apart flags
  name_segmentCount : name.Apart segmentCount
  flags_segmentCount : flags.Apart segmentCount
  size_le : size ≤ 64

/-- What the common library says of the parm lists, and the code of each character. -/
structure RadminLayout where
  charCode : Char → Byte
  res : HeaderLayout
  group : HeaderLayout
  connection : HeaderLayout
  segment : EntryLayout
  field : EntryLayout
  blank_ne : charCode ' ' ≠ 0

inductive RadminResAction where
  | addGenres
  | deleteGenres
  | permit
  | prohibit
  | na
deriving DecidableEq

inductive RadminGroupAction where
  | addGroup
  | deleteGroup
  | na
deriving DecidableEq

inductive RadminConnectionAction where
  | addConnection
  | removeConnection
  | na
deriving DecidableEq

def mapZisToRadminResAction (function : Int) : RadminResAction :=
  if function = zisGenresAdminSrvFcDefine then .addGenres
  else if function = zisGenresAdminSrvFcDelete then .deleteGenres
  else if function = zisGenresAdminSrvFcGiveAccess then .permit
  else if function = zisGenresAdminSrvFcRevokeAccess then .prohibit
  else .na

def mapZisToRadminGroupAction (function : Int) : RadminGroupAction :=
  if function = zisGroupAdminSrvFcAdd then .addGroup
  else if function = zisGroupAdminSrvFcDelete then .deleteGroup
  else .na

def mapZisToRadminConnectionAction (function : Int) : RadminConnectionAction :=
  if function = zisGroupAdminSrvFcConnectUser then .addConnection
  else if function = zisGroupAdminSrvFcRemoveUser then .removeConnection
  else .na

/-- `getAccessString`, without the null. -/
def getAccessString (type : Int) : Option Text :=
  if type = zisGenresAdminAccessTypeRead then some ['R', 'E', 'A', 'D']
  else if type = zisGenresAdminAccessTypeUpdate then some ['U', 'P', 'D', 'A', 'T', 'E']
  else if type = zisGenresAdminAccessTypeAlter then some ['A', 'L', 'T', 'E', 'R']
  else none

/-- `getGroupAccessString`, without the null. -/
def getGroupAccessString (type : Int) : Option Text :=
  if type = zisGroupAdminAccessTypeUse then some ['U', 'S', 'E']
  else if type = zisGroupAdminAccessTypeCreate then some ['C', 'R', 'E', 'A', 'T', 'E']
  else if type = zisGroupAdminAccessTypeConnect then some ['C', 'O', 'N', 'N', 'E', 'C', 'T']
  else if type = zisGroupAdminAccessTypeJoin then some ['J', 'O', 'I', 'N']
  else none

def baseName : Text := ['B', 'A', 'S', 'E', ' ', ' ', ' ', ' ']
def profileName : Text := ['P', 'R', 'O', 'F', 'I', 'L', 'E', ' ']
def uaccName : Text := ['U', 'A', 'C', 'C', ' ', ' ', ' ', ' ']
def ownerName : Text := ['O', 'W', 'N', 'E', 'R', ' ', ' ', ' ']
def idName : Text := ['I', 'D', ' ', ' ', ' ', ' ', ' ', ' ']
def accessName : Text := ['A', 'C', 'C', 'E', 'S', 'S', ' ', ' ']
def deleteName : Text := ['D', 'E', 'L', 'E', 'T', 'E', ' ', ' ']
def supgroupName : Text := ['S', 'U', 'P', 'G', 'R', 'O', 'U', 'P']
def universlName : Text := ['U', 'N', 'I', 'V', 'E', 'R', 'S', 'L']
def groupName : Text := ['G', 'R', 'O', 'U', 'P', ' ', ' ', ' ']
def authName : Text := ['A', 'U', 'T', 'H', ' ', ' ', ' ', ' ']
def noneText : Text := ['N', 'O', 'N', 'E']

/-! ## Statements of the constructors -/

section

variable (radmin : RadminLayout)

def RadminLayout.blank : Byte := radmin.charCode ' '

/-- The bytes of a text. -/
def RadminLayout.code (text : Text) : List Byte := text.map radmin.charCode

/-- The bytes `memcpy` takes from an array. -/
def RadminLayout.copied (source : Text) (count : Nat) : Option (List Byte) :=
  if count ≤ source.length then some (radmin.code (source.take count)) else none

/-- The count of a segment or a field. -/
def EntryLayout.loadCount (entry : EntryLayout) (offset : Nat) (image : Image) : Option Nat :=
  image.loadNumber (offset + entry.count.offset) entry.count.size

def EntryLayout.storeCount (entry : EntryLayout) (offset count : Nat) (image : Image) :
    Option Image :=
  image.storeNumber (offset + entry.count.offset) entry.count.size count

/-- The length and the name of a parm list, and the flags of a dry run. -/
def putHeader (header : HeaderLayout) (isDryRun : Bool) (source : Text) (copySize length : Nat)
    (image : Image) : Option Image := do
  let image ← image.storeNumber header.nameLength.offset header.nameLength.size length
  let name ← radmin.copied source copySize
  let image ← image.store header.name.offset name
  if isDryRun then
    let image ← image.orInto header.flags.offset header.norun
    image.orInto header.flags.offset header.retcmd
  else some image

/-- The name and the flag of a segment or a field. -/
def putEntry (entry : EntryLayout) (offset : Nat) (name : Text) (image : Image) :
    Option Image := do
  let image ← image.store (offset + entry.name.offset) (radmin.code name)
  image.orInto (offset + entry.flag.offset) entry.flagY

/-- The only segment, with the first count of its fields. -/
def putSegment (header : HeaderLayout) (fieldCount : Nat) (image : Image) : Option Image := do
  let image ← image.storeNumber header.segmentCount.offset header.segmentCount.size 1
  let image ← putEntry radmin radmin.segment header.size baseName image
  radmin.segment.storeCount header.size fieldCount image

/-- A field with data. -/
def putField (offset : Nat) (name source : Text) (dataLength : Nat) (image : Image) :
    Option Image := do
  let image ← putEntry radmin radmin.field offset name image
  let image ← radmin.field.storeCount offset dataLength image
  let length ← radmin.field.loadCount offset image
  let data ← radmin.copied source length
  image.store (offset + radmin.field.size) data

/-- A field without data. -/
def putEmptyField (offset : Nat) (name : Text) (image : Image) : Option Image := do
  let image ← putEntry radmin radmin.field offset name image
  radmin.field.storeCount offset 0 image

/-- `segment->fieldCount++`. -/
def incrementFieldCount (segment : Nat) (image : Image) : Option Image := do
  let count ← radmin.segment.loadCount segment image
  radmin.segment.storeCount segment (count + 1) image

/-- The field after a field. -/
def nextField (field : Nat) (image : Image) : Option Nat := do
  let length ← radmin.field.loadCount field image
  some (field + radmin.field.size + length)

/-- The first field of the only segment. -/
def HeaderLayout.firstField (header : HeaderLayout) : Nat := header.size + radmin.segment.size

/-! ## The constructors -/

/-- `constructResAdminParmList`, with NULL for a buffer that is too small. -/
def constructResAdminParmList (bufferSize : Nat) (action : RadminResAction) (isDryRun : Bool)
    (className : Text) (classLength : Nat) (profile : Text) (profileLength : Nat) (owner : Text)
    (ownerLength : Nat) (userID : Text) (userIDLength : Nat) (accessType : Int) :
    Option (Option Image) :=
  if bufferSize < resParmlistMinSize then some none
  else do
    let header := radmin.res
    let image := Image.filled bufferSize radmin.blank
    let image ← putHeader radmin header isDryRun className header.name.size classLength image
    let image ← putSegment radmin header 1 image
    let segment := header.size
    let field1 := header.firstField radmin
    let image ← putField radmin field1 profileName profile profileLength image
    let image ←
      if action = .addGenres then do
        let image ← incrementFieldCount radmin segment image
        let field2 ← nextField radmin field1 image
        let image ← putField radmin field2 uaccName noneText 4 image
        let image ← incrementFieldCount radmin segment image
        let field3 ← nextField radmin field2 image
        putField radmin field3 ownerName owner ownerLength image
      else some image
    let image ←
      if action = .permit ∨ action = .prohibit then do
        let image ← incrementFieldCount radmin segment image
        let field2 ← nextField radmin field1 image
        let image ← putField radmin field2 idName userID userIDLength image
        let image ← incrementFieldCount radmin segment image
        let field3 ← nextField radmin field2 image
        if action = .permit then do
          let accessString ← getAccessString accessType
          putField radmin field3 accessName accessString accessString.length image
        else putEmptyField radmin field3 deleteName image
      else some image
    some (some image)

/-- `constructGroupAdminParmList`. -/
def constructGroupAdminParmList (bufferSize : Nat) (action : RadminGroupAction) (isDryRun : Bool)
    (group : Text) (groupLength : Nat) (superiorGroup : Text) (superiorGroupLength : Nat) :
    Option (Option Image) :=
  if bufferSize < groupParmlistMinSize then some none
  else do
    let header := radmin.group
    let image := Image.filled bufferSize radmin.blank
    let image ← putHeader radmin header isDryRun group groupLength groupLength image
    let image ←
      if action = .addGroup then do
        let image ← putSegment radmin header 0 image
        let segment := header.size
        let image ← incrementFieldCount radmin segment image
        let field1 := header.firstField radmin
        let image ← putField radmin field1 supgroupName superiorGroup superiorGroupLength image
        let image ← incrementFieldCount radmin segment image
        let field2 ← nextField radmin field1 image
        putEmptyField radmin field2 universlName image
      else some image
    some (some image)

/-- `constructConnectionAdminParmList`. -/
def constructConnectionAdminParmList (bufferSize : Nat) (action : RadminConnectionAction)
    (isDryRun : Bool) (userID : Text) (userIDLength : Nat) (group : Text) (groupLength : Nat)
    (accessType : Int) : Option (Option Image) :=
  if bufferSize < groupParmlistMinSize then some none
  else do
    let header := radmin.connection
    let image := Image.filled bufferSize radmin.blank
    let image ← putHeader radmin header isDryRun userID userIDLength userIDLength image
    let image ← putSegment radmin header 1 image
    let segment := header.size
    let field1 := header.firstField radmin
    let image ← putField radmin field1 groupName group groupLength image
    let image ←
      if action = .addConnection then do
        let accessString ← getGroupAccessString accessType
        let image ← incrementFieldCount radmin segment image
        let field2 ← nextField radmin field1 image
        putField radmin field2 authName accessString accessString.length image
      else some image
    some (some image)

end

/-! ## The services -/

/-- What the services ask of their surroundings: the caller, from the ACEE where there is one, and
the class parameter, or the code it is not read with. -/
structure RacfEnv where
  secmgmtGetCallerUserID : Option CountedText
  userClass : Except Int CountedText
  caller_length : ∀ caller, secmgmtGetCallerUserID = some caller →
    caller.length ≤ zisUserIdMaxLength ∧ caller.value.length = zisUserIdMaxLength
  userClass_length : ∀ parm, userClass = .ok parm → zisSecurityClassMaxLength ≤ parm.value.length

/-- What a service does before it performs its action: it returns, ends abnormally, or has a parm
list. -/
inductive ParmListOutcome where
  | refused (rc : Int)
  | abended
  | built (image : Image)

/-- The outcome of a constructor, and the return code where it has none. -/
def ParmListOutcome.ofConstructed (internalError : Int) : Option (Option Image) → ParmListOutcome
  | none => .abended
  | some none => .refused internalError
  | some (some image) => .built image

section

variable (radmin : RadminLayout) (env : RacfEnv)

/-- The parm list of `zisGenresProfileAdminServiceFunctionRACF`. -/
def genresRadminParmList (parm : GenresAdminParmList) : ParmListOutcome :=
  let parmValidateRC := validateGenresParmList parm
  if parmValidateRC ≠ rcZisGsadmnsrvOk then .refused parmValidateRC
  else
    match env.secmgmtGetCallerUserID with
    | none => .refused rcZisGsadmnsrvImpersonationMissing
    | some caller =>
      let parm := parm.withOwner caller
      match env.userClass with
      | .error _ => .refused rcZisGsadmnsrvUserClassNotRead
      | .ok userClassParm =>
        if userClassParm.length > zisSecurityClassMaxLength then
          .refused rcZisGsadmnsrvUserClassTooLong
        else
          let action := mapZisToRadminResAction parm.function
          if action = .na then .refused rcZisGsadmnsrvBadFunction
          else
            .ofConstructed rcZisGsadmnsrvParmInternalError
              (constructResAdminParmList radmin parmListBufferSize action
                (hasFlag parm.flags zisGenresAdminFlagDryrun) userClassParm.value
                userClassParm.length parm.profile.value parm.profile.length parm.owner.value
                parm.owner.length parm.user.value parm.user.length parm.accessType)

/-- The parm list of `zisGroupAdminServiceFunctionRACF`. -/
def groupRadminParmList (parm : GroupAdminParmList) : ParmListOutcome :=
  let parmValidateRC := validateGroupParmList parm
  if parmValidateRC ≠ rcZisGrpasrvOk then .refused parmValidateRC
  else
    match env.secmgmtGetCallerUserID with
    | none => .refused rcZisGrpasrvImpersonationMissing
    | some _ =>
      let isDryRun := hasFlag parm.flags zisGroupAdminFlagDryrun
      if parm.function = zisGroupAdminSrvFcAdd ∨ parm.function = zisGroupAdminSrvFcDelete then
        let action := mapZisToRadminGroupAction parm.function
        if action = .na then .refused rcZisGrpasrvBadFunction
        else
          .ofConstructed rcZisGrpasrvParmInternalError
            (constructGroupAdminParmList radmin parmListBufferSize action isDryRun
              parm.group.value parm.group.length parm.superiorGroup.value
              parm.superiorGroup.length)
      else
        let action := mapZisToRadminConnectionAction parm.function
        if action = .na then .refused rcZisGrpasrvBadFunction
        else
          .ofConstructed rcZisGrpasrvParmInternalError
            (constructConnectionAdminParmList radmin parmListBufferSize action isDryRun
              parm.user.value parm.user.length parm.group.value parm.group.length
              parm.accessType)

end

end Zss.Racf
