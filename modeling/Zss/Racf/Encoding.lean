import Zss.Racf.Draft

/-!
# What the parm lists of R_admin say

A request asks for a list: its name, the flags of a dry run or none, and the fields of its function,
each with its flag. `encoded_iff` says which requests that are accepted have that list built and
read back. The others are those that give an access without a string, those that delete a group,
whose list has no count of segments, and those whose flags keep bits of the blanks the buffer is
filled with, among them every request that is not a dry run.

## What is not established

That R_admin does what its list says. The offsets are those of any layout (`RadminLayout`); that the
real header is one is an assumption.
-/

namespace Zss.Racf

open Zss.Lib (Byte Image bytesNumber hasFlag bytesNumber_replicate_ne_zero)
open Zss.Lib.Image (ChangedWithin FilledFrom orBytes)
open Zss.Tss (Text CountedText GenresAdminParmList GroupAdminParmList AdminRequest
  validateGenresParmList validateGroupParmList validateGenresParmList_ok validateGroupParmList_ok
  rcZisGsadmnsrvOk rcZisGrpasrvOk rcZisGrpasrvBadFunction zisUserIdMaxLength
  zisSecurityClassMaxLength zisSecurityProfileMaxLength zisSecurityGroupMaxLength
  zisGroupAdminFlagDryrun
  zisGenresAdminSrvFcGiveAccess zisGenresAdminAccessTypeAll zisGroupAdminSrvFcAdd
  zisGroupAdminSrvFcDelete zisGroupAdminSrvFcConnectUser)

/-! ## What a request asks for -/

/-- The names and the values of the fields for a resource. -/
def resFields (action : RadminResAction) (profile owner userID accessString : Text) :
    List (Text × Text) :=
  match action with
  | .addGenres => [(profileName, profile), (uaccName, noneText), (ownerName, owner)]
  | .permit => [(profileName, profile), (idName, userID), (accessName, accessString)]
  | .prohibit => [(profileName, profile), (idName, userID), (deleteName, [])]
  | .deleteGenres | .na => [(profileName, profile)]

/-- The segments for a group, of which a group that is deleted has none. -/
def groupSegments (action : RadminGroupAction) (superiorGroup : Text) :
    List (List (Text × Text)) :=
  match action with
  | .addGroup => [[(supgroupName, superiorGroup), (universlName, [])]]
  | .deleteGroup | .na => []

def connectionFields (action : RadminConnectionAction) (group accessString : Text) :
    List (Text × Text) :=
  match action with
  | .addConnection => [(groupName, group), (authName, accessString)]
  | .removeConnection | .na => [(groupName, group)]

/-- A list of such segments with flags, each of them called `BASE`. -/
def RadminLayout.listValue (radmin : RadminLayout) (flags segmentFlag fieldFlag : List Byte)
    (name : Text) (segments : List (List (Text × Text))) : ListValue where
  name := radmin.code name
  flags := flags
  segments := segments.map fun fields =>
    ⟨radmin.code baseName, segmentFlag, fields.map fun (name, value) =>
      ⟨radmin.code name, fieldFlag, radmin.code value⟩⟩

/-- The masks of a dry run, and no flag otherwise. -/
def HeaderLayout.askedFlags (header : HeaderLayout) (isDryRun : Bool) : List Byte :=
  if isDryRun then orBytes header.norun header.retcmd else List.replicate header.flags.size 0

/-- The list with its masks alone. -/
def RadminLayout.askedList (radmin : RadminLayout) (header : HeaderLayout) (isDryRun : Bool)
    (name : Text) (segments : List (List (Text × Text))) : ListValue :=
  radmin.listValue (header.askedFlags isDryRun) radmin.segment.flagY radmin.field.flagY name
    segments

/-- The list with its masks over blanks. -/
def RadminLayout.blankList (radmin : RadminLayout) (header : HeaderLayout) (isDryRun : Bool)
    (name : Text) (segments : List (List (Text × Text))) : ListValue :=
  radmin.listValue (header.blankFlags radmin isDryRun) (radmin.onBlanks radmin.segment.flagY)
    (radmin.onBlanks radmin.field.flagY) name segments

/-! ## Flags -/

variable {radmin : RadminLayout} {header : HeaderLayout}

theorem blankFlags_eq_iff (isDryRun : Bool) :
    header.blankFlags radmin isDryRun = header.askedFlags isDryRun ↔
      isDryRun = true ∧ radmin.Covers (orBytes header.norun header.retcmd) := by
  cases isDryRun with
  | false =>
    constructor
    · intro h
      have h : List.replicate header.flags.size radmin.blank =
        List.replicate header.flags.size 0 := h
      have hblank := (List.replicate_right_inj (Nat.ne_of_gt header.flags_pos)).mp h
      exact absurd hblank radmin.blank_ne
    · intro h
      exact absurd h.1 Bool.false_ne_true
  | true =>
    have hlength : (orBytes header.norun header.retcmd).length = header.flags.size := by
      rw [Image.length_orBytes (header.norun_size.symm.trans header.retcmd_size),
        header.retcmd_size]
    have hassoc : header.blankFlags radmin true =
        radmin.onBlanks (orBytes header.norun header.retcmd) := by
      rw [RadminLayout.onBlanks, hlength, ← Image.orBytes_assoc]
      rfl
    rw [hassoc]
    show radmin.onBlanks _ = orBytes header.norun header.retcmd ↔ _
    rw [onBlanks_eq_iff]
    simp

/-- A list with a segment that has a field is what is asked for exactly when its flags are. -/
theorem listValue_inj {flags flags' segmentFlag segmentFlag' fieldFlag fieldFlag' : List Byte}
    {name : Text} {field : Text × Text} {fields : List (Text × Text)} :
    radmin.listValue flags segmentFlag fieldFlag name [field :: fields] =
        radmin.listValue flags' segmentFlag' fieldFlag' name [field :: fields] ↔
      flags = flags' ∧ segmentFlag = segmentFlag' ∧ fieldFlag = fieldFlag' := by
  constructor
  · intro h
    simp only [RadminLayout.listValue, ListValue.mk.injEq, List.map_cons, List.cons.injEq,
      SegmentValue.mk.injEq, FieldValue.mk.injEq, true_and] at h
    exact ⟨h.1, h.2.1.1, h.2.1.2.1.1⟩
  · rintro ⟨rfl, rfl, rfl⟩
    rfl

/-- The masks of a list have the bits of a blank. -/
structure CleanFlags (radmin : RadminLayout) (header : HeaderLayout) (isDryRun : Bool) :
    Prop where
  isDryRun : isDryRun = true
  header : radmin.Covers (orBytes header.norun header.retcmd)
  segment : radmin.Covers radmin.segment.flagY
  field : radmin.Covers radmin.field.flagY

theorem blankList_eq_iff (radmin : RadminLayout) (header : HeaderLayout) (isDryRun : Bool)
    (name : Text) (field : Text × Text) (fields : List (Text × Text)) :
    radmin.blankList header isDryRun name [field :: fields] =
        radmin.askedList header isDryRun name [field :: fields] ↔
      CleanFlags radmin header isDryRun := by
  rw [RadminLayout.blankList, RadminLayout.askedList, listValue_inj, blankFlags_eq_iff,
    onBlanks_eq_iff, onBlanks_eq_iff]
  constructor
  · rintro ⟨⟨hdry, hheader⟩, hsegment, hfield⟩
    exact ⟨hdry, hheader, hsegment, hfield⟩
  · intro h
    exact ⟨⟨h.isDryRun, h.header⟩, h.segment, h.field⟩

/-! ## The constructors -/

/-- A list that is built in its buffer and read as a value. -/
def ReadsAs (radmin : RadminLayout) (header : HeaderLayout) (constructed : Option (Option Image))
    (value : ListValue) : Prop :=
  ∃ image, constructed = some (some image) ∧ image.size = parmListBufferSize ∧
    walk radmin image header = some value

/-- The header in a buffer that is filled with blanks. -/
theorem filled_spec (radmin : RadminLayout) (header : HeaderLayout) (isDryRun : Bool)
    {source : Text} {copySize length : Nat} (hsource : copySize ≤ source.length)
    (hcopy : copySize ≤ 8) (hlength : length ≤ copySize) :
    ∃ headed,
      putHeader radmin header isDryRun source copySize length
        (Image.filled parmListBufferSize radmin.blank) = some headed ∧
      headed.size = parmListBufferSize ∧
      HeaderAt header headed (radmin.code (source.take length))
        (header.blankFlags radmin isDryRun) ∧
      headed.load header.segmentCount.offset header.segmentCount.size =
        some (List.replicate header.segmentCount.size radmin.blank) ∧
      headed.FilledFrom header.size radmin.blank := by
  have hblank (offset : Nat) :
      (Image.filled parmListBufferSize radmin.blank).FilledFrom offset radmin.blank :=
    fun _ _ => rfl
  have hsize : header.size ≤ (Image.filled parmListBufferSize radmin.blank).size := by
    have hle := header.size_le
    show header.size ≤ 2048
    omega
  obtain ⟨headed, hput, hheaded, hcount, hchanged⟩ :=
    putHeader_spec header isDryRun (hblank 0) hsize hsource hcopy hlength
  exact ⟨headed, hput, hchanged.size, hheaded, hcount,
    hchanged.filledFrom (hblank _) (Nat.le_refl _)⟩

section

variable {action : RadminResAction} {isDryRun : Bool} {className profile owner userID : Text}
  {classLength profileLength ownerLength userIDLength : Nat} {accessType : Int}

/-- **A list for a resource.** -/
theorem constructResAdminParmList_reads (radmin : RadminLayout) (isDryRun : Bool)
    {accessString : Text}
    (hclass : 8 ≤ className.length) (hclassLength : classLength ≤ 8)
    (hprofile : profileLength ≤ profile.length) (hprofileLength : profileLength < 256)
    (howner : ownerLength ≤ owner.length) (hownerLength : ownerLength < 256)
    (huser : userIDLength ≤ userID.length) (huserLength : userIDLength < 256)
    (haccess : action = .permit → getAccessString accessType = some accessString)
    (haccessLength : accessString.length < 256) :
    ReadsAs radmin radmin.res
      (constructResAdminParmList radmin parmListBufferSize action isDryRun className classLength
        profile profileLength owner ownerLength userID userIDLength accessType)
      (radmin.blankList radmin.res isDryRun (className.take classLength)
        [resFields action (profile.take profileLength) (owner.take ownerLength)
          (userID.take userIDLength) accessString]) := by
  have hname := radmin.res.name_size
  obtain ⟨headed, hput, hsize, hheaded, -, hblank⟩ :=
    filled_spec radmin radmin.res isDryRun (by omega : radmin.res.name.size ≤ className.length)
      (by omega) (by omega : classLength ≤ radmin.res.name.size)
  obtain ⟨begun, hsegment, hbegun⟩ :=
    putSegment_spec 1 hheaded hblank hsize (by decide)
  obtain ⟨image1, hfield1, hdraft1⟩ :=
    hbegun.putField profileName (by decide) rfl hprofile hprofileLength
  rw [fieldsEnd_nil] at hfield1
  have hnotSmall : ¬parmListBufferSize < resParmlistMinSize := by decide
  unfold constructResAdminParmList
  cases action with
  | addGenres =>
    obtain ⟨image2, hcount2, hnext2, hdraft2⟩ := hdraft1.advance (by decide)
    obtain ⟨image3, hfield3, hdraft3⟩ :=
      hdraft2.putField uaccName (by simp) rfl (by decide : 4 ≤ noneText.length) (by decide)
    obtain ⟨image4, hcount4, hnext4, hdraft4⟩ := hdraft3.advance (by decide)
    obtain ⟨image5, hfield5, hdraft5⟩ :=
      hdraft4.putField ownerName (by simp) rfl howner hownerLength
    rw [fieldsEnd_nil] at hnext2
    refine ⟨image5, ?_, hdraft5.size, hdraft5.walk⟩
    simp only [if_neg hnotSmall, Option.bind_eq_bind, Option.bind_some, reduceCtorEq, reduceIte,
      or_false, hput, hsegment, hfield1, hcount2, hnext2, hfield3, hcount4, hnext4, hfield5]
  | deleteGenres | na =>
    refine ⟨image1, ?_, hdraft1.size, hdraft1.walk⟩
    simp [hnotSmall, hput, hsegment, hfield1]
  | permit =>
    obtain ⟨image2, hcount2, hnext2, hdraft2⟩ := hdraft1.advance (by decide)
    obtain ⟨image3, hfield3, hdraft3⟩ :=
      hdraft2.putField idName (by simp) rfl huser huserLength
    obtain ⟨image4, hcount4, hnext4, hdraft4⟩ := hdraft3.advance (by decide)
    obtain ⟨image5, hfield5, hdraft5⟩ :=
      hdraft4.putField accessName (by simp) rfl (Nat.le_refl accessString.length) haccessLength
    rw [fieldsEnd_nil] at hnext2
    rw [List.take_length] at hdraft5
    refine ⟨image5, ?_, hdraft5.size, hdraft5.walk⟩
    simp only [if_neg hnotSmall, Option.bind_eq_bind, Option.bind_some, reduceCtorEq, reduceIte,
      true_or, hput, hsegment, hfield1, hcount2, hnext2, hfield3, hcount4, hnext4, haccess rfl,
      hfield5]
  | prohibit =>
    obtain ⟨image2, hcount2, hnext2, hdraft2⟩ := hdraft1.advance (by decide)
    obtain ⟨image3, hfield3, hdraft3⟩ :=
      hdraft2.putField idName (by simp) rfl huser huserLength
    obtain ⟨image4, hcount4, hnext4, hdraft4⟩ := hdraft3.advance (by decide)
    obtain ⟨image5, hfield5, hdraft5⟩ := hdraft4.putEmptyField deleteName (by simp) rfl
    rw [fieldsEnd_nil] at hnext2
    refine ⟨image5, ?_, hdraft5.size, hdraft5.walk⟩
    simp only [if_neg hnotSmall, Option.bind_eq_bind, Option.bind_some, reduceCtorEq, reduceIte,
      or_true, hput, hsegment, hfield1, hcount2, hnext2, hfield3, hcount4, hnext4, hfield5]

/-- An access that has no string is dereferenced. -/
theorem constructResAdminParmList_none (haccess : getAccessString accessType = none) :
    constructResAdminParmList radmin parmListBufferSize .permit isDryRun className classLength
      profile profileLength owner ownerLength userID userIDLength accessType = none := by
  have hnotSmall : ¬parmListBufferSize < resParmlistMinSize := by decide
  simp [constructResAdminParmList, hnotSmall, haccess]

end

section

variable {isDryRun : Bool} {group superiorGroup userID : Text}
  {groupLength superiorGroupLength userIDLength : Nat} {accessType : Int}

/-- A list for a group that is added. -/
theorem constructGroupAdminParmList_reads (radmin : RadminLayout) (isDryRun : Bool)
    (hgroup : groupLength ≤ group.length)
    (hgroupLength : groupLength ≤ 8) (hsuperior : superiorGroupLength ≤ superiorGroup.length)
    (hsuperiorLength : superiorGroupLength < 256) :
    ReadsAs radmin radmin.group
      (constructGroupAdminParmList radmin parmListBufferSize .addGroup isDryRun group groupLength
        superiorGroup superiorGroupLength)
      (radmin.blankList radmin.group isDryRun (group.take groupLength)
        (groupSegments .addGroup (superiorGroup.take superiorGroupLength))) := by
  obtain ⟨headed, hput, hsize, hheaded, -, hblank⟩ :=
    filled_spec radmin radmin.group isDryRun hgroup hgroupLength (Nat.le_refl groupLength)
  obtain ⟨begun, hsegment, hbegun⟩ := putSegment_spec 0 hheaded hblank hsize (by decide)
  obtain ⟨image1, hcount1, hdraft1⟩ := hbegun.incrementFieldCount (by decide)
  obtain ⟨image2, hfield2, hdraft2⟩ :=
    hdraft1.putField supgroupName (by decide) rfl hsuperior hsuperiorLength
  obtain ⟨image3, hcount3, hnext3, hdraft3⟩ := hdraft2.advance (by decide)
  obtain ⟨image4, hfield4, hdraft4⟩ := hdraft3.putEmptyField universlName (by simp) rfl
  rw [fieldsEnd_nil] at hfield2 hnext3
  have hnotSmall : ¬parmListBufferSize < groupParmlistMinSize := by decide
  refine ⟨image4, ?_, hdraft4.size, hdraft4.walk⟩
  unfold constructGroupAdminParmList
  simp only [if_neg hnotSmall, Option.bind_eq_bind, Option.bind_some, reduceIte, hput, hsegment,
    hcount1, hfield2, hnext3, hcount3, hfield4]

/-- **A list without a count.** For a group that is deleted, what is read of it is never a list
without segments. -/
theorem constructGroupAdminParmList_delete (hgroup : groupLength ≤ group.length)
    (hgroupLength : groupLength ≤ 8) {value : ListValue} (hvalue : value.segments = []) :
    ¬ReadsAs radmin radmin.group
      (constructGroupAdminParmList radmin parmListBufferSize .deleteGroup isDryRun group
        groupLength superiorGroup superiorGroupLength) value := by
  intro ⟨image, hbuilt, _, hwalk⟩
  obtain ⟨headed, hput, -, -, hcount, -⟩ :=
    filled_spec radmin radmin.group isDryRun hgroup hgroupLength (Nat.le_refl groupLength)
  have hnotSmall : ¬parmListBufferSize < groupParmlistMinSize := by decide
  unfold constructGroupAdminParmList at hbuilt
  simp only [if_neg hnotSmall, Option.bind_eq_bind, Option.bind_some, reduceCtorEq, reduceIte, hput,
    Option.some.injEq] at hbuilt
  subst hbuilt
  have hnumber : headed.loadNumber radmin.group.segmentCount.offset
      radmin.group.segmentCount.size =
        some (bytesNumber (List.replicate radmin.group.segmentCount.size radmin.blank)) := by
    rw [Image.loadNumber, hcount, Option.map_some]
  simp only [walk, bind, Option.bind_eq_some_iff] at hwalk
  obtain ⟨_, -, _, -, _, -, count, hread, segments, hsegments, hread'⟩ := hwalk
  cases hread'
  rw [hnumber, Option.some.injEq] at hread
  have hlength := length_walkSegments hsegments
  have hnil : segments = [] := hvalue
  rw [hnil, List.length_nil, ← hread] at hlength
  exact bytesNumber_replicate_ne_zero radmin.group.segmentCount_pos radmin.blank_ne hlength.symm

/-- A list for a user's connection to a group. -/
theorem constructConnectionAdminParmList_reads (radmin : RadminLayout) (isDryRun : Bool)
    {action : RadminConnectionAction} {accessString : Text}
    (huser : userIDLength ≤ userID.length) (huserLength : userIDLength ≤ 8)
    (hgroup : groupLength ≤ group.length) (hgroupLength : groupLength < 256)
    (haccess : action = .addConnection → getGroupAccessString accessType = some accessString)
    (haccessLength : accessString.length < 256) :
    ReadsAs radmin radmin.connection
      (constructConnectionAdminParmList radmin parmListBufferSize action isDryRun userID
        userIDLength group groupLength accessType)
      (radmin.blankList radmin.connection isDryRun (userID.take userIDLength)
        [connectionFields action (group.take groupLength) accessString]) := by
  obtain ⟨headed, hput, hsize, hheaded, -, hblank⟩ :=
    filled_spec radmin radmin.connection isDryRun huser huserLength (Nat.le_refl userIDLength)
  obtain ⟨begun, hsegment, hbegun⟩ := putSegment_spec 1 hheaded hblank hsize (by decide)
  obtain ⟨image1, hfield1, hdraft1⟩ :=
    hbegun.putField groupName (by decide) rfl hgroup hgroupLength
  rw [fieldsEnd_nil] at hfield1
  have hnotSmall : ¬parmListBufferSize < groupParmlistMinSize := by decide
  unfold constructConnectionAdminParmList
  cases action with
  | addConnection =>
    obtain ⟨image2, hcount2, hnext2, hdraft2⟩ := hdraft1.advance (by decide)
    obtain ⟨image3, hfield3, hdraft3⟩ :=
      hdraft2.putField authName (by simp) rfl (Nat.le_refl accessString.length) haccessLength
    rw [fieldsEnd_nil] at hnext2
    rw [List.take_length] at hdraft3
    refine ⟨image3, ?_, hdraft3.size, hdraft3.walk⟩
    simp only [if_neg hnotSmall, Option.bind_eq_bind, Option.bind_some, reduceIte, hput, hsegment,
      hfield1, haccess rfl, hcount2, hnext2, hfield3]
  | removeConnection | na =>
    refine ⟨image1, ?_, hdraft1.size, hdraft1.walk⟩
    simp [hnotSmall, hput, hsegment, hfield1]

end

/-! ## Requests -/

/-- The array of a field has the size of its type. -/
def HasSize (field : CountedText) (size : Nat) : Prop := field.value.length = size

/-- The arrays of a parm list have the sizes of their types. -/
def RequestTyped : AdminRequest → Prop
  | .genres parm =>
    HasSize parm.profile zisSecurityProfileMaxLength ∧ HasSize parm.owner zisUserIdMaxLength ∧
      HasSize parm.user zisUserIdMaxLength
  | .group parm =>
    HasSize parm.group zisSecurityGroupMaxLength ∧
      HasSize parm.superiorGroup zisSecurityGroupMaxLength ∧ HasSize parm.user zisUserIdMaxLength

/-- A request its validator accepts. -/
def Accepted : AdminRequest → Prop
  | .genres parm => validateGenresParmList parm = rcZisGsadmnsrvOk
  | .group parm => validateGroupParmList parm = rcZisGrpasrvOk

section

variable (radmin : RadminLayout) (env : RacfEnv)

/-- The caller, and for a resource the class, which the service does not go on without. -/
def Provided : AdminRequest → Prop
  | .genres _ =>
    (∃ caller, env.secmgmtGetCallerUserID = some caller) ∧
      ∃ parm, env.userClass = .ok parm ∧ parm.length ≤ zisSecurityClassMaxLength
  | .group _ => ∃ caller, env.secmgmtGetCallerUserID = some caller

/-- The parm list the service of a request builds. -/
def requestParmList : AdminRequest → ParmListOutcome
  | .genres parm => genresRadminParmList radmin env parm
  | .group parm => groupRadminParmList radmin env parm

/-- The header of the list of a request. -/
def requestHeader : AdminRequest → HeaderLayout
  | .genres _ => radmin.res
  | .group parm =>
    if parm.function = zisGroupAdminSrvFcAdd ∨ parm.function = zisGroupAdminSrvFcDelete then
      radmin.group
    else radmin.connection

def requestIsDryRun : AdminRequest → Bool
  | .genres parm => hasFlag parm.flags zisGenresAdminFlagDryrun
  | .group parm => hasFlag parm.flags zisGroupAdminFlagDryrun

/-- The caller's identifier, and the name of the class. -/
def RacfEnv.caller : CountedText := env.secmgmtGetCallerUserID.getD ⟨0, []⟩

def RacfEnv.className : Text :=
  match env.userClass with
  | .error _ => []
  | .ok parm => parm.text

/-- The name a request asks for. -/
def requestName : AdminRequest → Text
  | .genres _ => env.className
  | .group parm =>
    if parm.function = zisGroupAdminSrvFcAdd ∨ parm.function = zisGroupAdminSrvFcDelete then
      parm.group.text
    else parm.user.text

/-- The segments a request asks for. -/
def requestSegments : AdminRequest → List (List (Text × Text))
  | .genres parm =>
    [resFields (mapZisToRadminResAction parm.function) parm.profile.text
      (parm.withOwner env.caller).owner.text parm.user.text
      ((getAccessString parm.accessType).getD [])]
  | .group parm =>
    if parm.function = zisGroupAdminSrvFcAdd ∨ parm.function = zisGroupAdminSrvFcDelete then
      groupSegments (mapZisToRadminGroupAction parm.function) parm.superiorGroup.text
    else
      [connectionFields (mapZisToRadminConnectionAction parm.function) parm.group.text
        ((getGroupAccessString parm.accessType).getD [])]

/-- The list a request asks for. -/
def requestList (request : AdminRequest) : ListValue :=
  radmin.askedList (requestHeader radmin request) (requestIsDryRun request)
    (requestName env request) (requestSegments env request)

/-- The list of a request is built in its buffer, and read back as what the request asks for. -/
def Encoded (request : AdminRequest) : Prop :=
  ∃ image, requestParmList radmin env request = .built image ∧ image.size = parmListBufferSize ∧
    walk radmin image (requestHeader radmin request) = some (requestList radmin env request)

end

/-- A request for the access that has no string here. -/
def GivesAllAccess : AdminRequest → Prop
  | .genres parm =>
    parm.function = zisGenresAdminSrvFcGiveAccess ∧ parm.accessType = zisGenresAdminAccessTypeAll
  | .group _ => False

def DeletesGroup : AdminRequest → Prop
  | .genres _ => False
  | .group parm => parm.function = zisGroupAdminSrvFcDelete

instance : (request : AdminRequest) → Decidable (GivesAllAccess request)
  | .genres parm =>
    inferInstanceAs (Decidable (parm.function = zisGenresAdminSrvFcGiveAccess ∧
      parm.accessType = zisGenresAdminAccessTypeAll))
  | .group _ => isFalse id

/-! ## Requests that are encoded -/

theorem ofConstructed_eq_built {internalError : Int} {constructed : Option (Option Image)}
    {image : Image} :
    ParmListOutcome.ofConstructed internalError constructed = .built image ↔
      constructed = some (some image) := by
  unfold ParmListOutcome.ofConstructed
  split
  next => simp
  next => simp
  next => simp

/-- What a list is read as decides whether it is the one asked for. -/
theorem ReadsAs.iff {constructed : Option (Option Image)} {value : ListValue}
    (h : ReadsAs radmin header constructed value) (value' : ListValue) :
    ReadsAs radmin header constructed value' ↔ value = value' := by
  obtain ⟨image, hbuilt, hsize, hwalk⟩ := h
  constructor
  · rintro ⟨image', hbuilt', -, hwalk'⟩
    rw [hbuilt, Option.some.injEq, Option.some.injEq] at hbuilt'
    rw [← hbuilt', hwalk, Option.some.injEq] at hwalk'
    exact hwalk'
  · rintro rfl
    exact ⟨image, hbuilt, hsize, hwalk⟩

variable {env : RacfEnv}

theorem encoded_iff_reads {request : AdminRequest} {internalError : Int}
    {constructed : Option (Option Image)}
    (h : requestParmList radmin env request = .ofConstructed internalError constructed) :
    Encoded radmin env request ↔
      ReadsAs radmin (requestHeader radmin request) constructed
        (requestList radmin env request) := by
  unfold Encoded ReadsAs
  rw [h]
  simp only [ofConstructed_eq_built]

theorem resFields_cons (action : RadminResAction) (profile owner userID accessString : Text) :
    ∃ field fields, resFields action profile owner userID accessString = field :: fields := by
  cases action <;> exact ⟨_, _, rfl⟩

theorem connectionFields_cons (action : RadminConnectionAction) (group accessString : Text) :
    ∃ field fields, connectionFields action group accessString = field :: fields := by
  cases action <;> exact ⟨_, _, rfl⟩

theorem length_getAccessString {type : Int} {accessString : Text}
    (h : getAccessString type = some accessString) : accessString.length < 256 := by
  unfold getAccessString at h
  split at h
  next => cases h; decide
  next =>
    split at h
    next => cases h; decide
    next =>
      split at h
      next => cases h; decide
      next => cases h

theorem length_getGroupAccessString {type : Int} {accessString : Text}
    (h : getGroupAccessString type = some accessString) : accessString.length < 256 := by
  unfold getGroupAccessString at h
  split at h
  next => cases h; decide
  next =>
    split at h
    next => cases h; decide
    next =>
      split at h
      next => cases h; decide
      next =>
        split at h
        next => cases h; decide
        next => cases h

/-- The accesses that are accepted have strings, except the one for all. -/
theorem getAccessString_none_iff {type : Int} (h : 0 ≤ type ∧ type ≤ 3) :
    getAccessString type = none ↔ type = zisGenresAdminAccessTypeAll := by
  obtain rfl | rfl | rfl | rfl : type = 0 ∨ type = 1 ∨ type = 2 ∨ type = 3 := by omega
  all_goals decide

theorem getGroupAccessString_some {type : Int} (h : 0 ≤ type ∧ type ≤ 3) :
    ∃ accessString, getGroupAccessString type = some accessString := by
  obtain rfl | rfl | rfl | rfl : type = 0 ∨ type = 1 ∨ type = 2 ∨ type = 3 := by omega
  all_goals exact ⟨_, rfl⟩

section

open Zss.Tss (GenresAccepted GroupAccepted)

variable {parm : GenresAdminParmList} {groupParm : GroupAdminParmList}

theorem withOwner_function (caller : CountedText) :
    (parm.withOwner caller).function = parm.function := by
  unfold GenresAdminParmList.withOwner
  split <;> rfl

theorem withOwner_flags (caller : CountedText) :
    (parm.withOwner caller).flags = parm.flags := by
  unfold GenresAdminParmList.withOwner
  split <;> rfl

theorem withOwner_accessType (caller : CountedText) :
    (parm.withOwner caller).accessType = parm.accessType := by
  unfold GenresAdminParmList.withOwner
  split <;> rfl

/-- The owner that is left fits, whoever it is. -/
theorem withOwner_owner {caller : CountedText} (howner : parm.owner.length ≤ 8)
    (hsize : HasSize parm.owner zisUserIdMaxLength)
    (hcaller : caller.length ≤ zisUserIdMaxLength ∧ caller.value.length = zisUserIdMaxLength) :
    (parm.withOwner caller).owner.length ≤ 8 ∧
      HasSize (parm.withOwner caller).owner zisUserIdMaxLength := by
  unfold GenresAdminParmList.withOwner
  split
  next => exact hcaller
  next => exact ⟨howner, hsize⟩

/-- What the service constructs for a request that is accepted. -/
theorem genresRadminParmList_eq {caller userClassParm : CountedText}
    (haccepted : validateGenresParmList parm = rcZisGsadmnsrvOk)
    (hcaller : env.secmgmtGetCallerUserID = some caller)
    (hclass : env.userClass = .ok userClassParm)
    (hlength : userClassParm.length ≤ zisSecurityClassMaxLength)
    (haction : mapZisToRadminResAction parm.function ≠ .na) :
    requestParmList radmin env (.genres parm) =
      .ofConstructed rcZisGsadmnsrvParmInternalError
        (constructResAdminParmList radmin parmListBufferSize
          (mapZisToRadminResAction parm.function) (hasFlag parm.flags zisGenresAdminFlagDryrun)
          userClassParm.value userClassParm.length parm.profile.value parm.profile.length
          (parm.withOwner caller).owner.value (parm.withOwner caller).owner.length
          parm.user.value parm.user.length parm.accessType) := by
  have hvalid : ¬validateGenresParmList parm ≠ rcZisGsadmnsrvOk := not_not.mpr haccepted
  have hshort : ¬userClassParm.length > zisSecurityClassMaxLength := Nat.not_lt.mpr hlength
  unfold requestParmList genresRadminParmList
  dsimp only
  rw [if_neg hvalid, hcaller]
  dsimp only
  rw [hclass]
  dsimp only
  rw [if_neg hshort, withOwner_function, if_neg haction, withOwner_flags, withOwner_accessType,
    Zss.Tss.withOwner_profile, Zss.Tss.withOwner_user]

/-- A request that is accepted has an action. -/
theorem mapZisToRadminResAction_cases {function : Int} (h : 0 ≤ function ∧ function ≤ 3) :
    mapZisToRadminResAction function ≠ .na ∧
      (mapZisToRadminResAction function = .permit ↔ function = zisGenresAdminSrvFcGiveAccess) := by
  obtain rfl | rfl | rfl | rfl : function = 0 ∨ function = 1 ∨ function = 2 ∨ function = 3 := by
    omega
  all_goals decide

/-- **Resources.** -/
theorem genres_encoded_iff (htyped : RequestTyped (.genres parm))
    (haccepted : Accepted (.genres parm)) (hprovided : Provided env (.genres parm)) :
    Encoded radmin env (.genres parm) ↔
      ¬GivesAllAccess (.genres parm) ∧
        CleanFlags radmin radmin.res (hasFlag parm.flags zisGenresAdminFlagDryrun) := by
  obtain ⟨hprofileSize, hownerSize, huserSize⟩ := htyped
  obtain ⟨⟨caller, hcaller⟩, userClassParm, hclass, hclassLength⟩ := hprovided
  have hbounds : GenresAccepted parm := validateGenresParmList_ok haccepted
  obtain ⟨haction, hpermit⟩ := mapZisToRadminResAction_cases hbounds.function
  have hcallerEq : env.caller = caller := by
    rw [RacfEnv.caller, hcaller]
    rfl
  have hclassEq : env.className = userClassParm.text := by rw [RacfEnv.className, hclass]
  obtain ⟨howner, hownerSize⟩ :=
    withOwner_owner hbounds.owner hownerSize (env.caller_length caller hcaller)
  have hclassSize := env.userClass_length userClassParm hclass
  have hprofile := hbounds.profile
  have huser := hbounds.user
  unfold HasSize zisSecurityProfileMaxLength at hprofileSize
  unfold HasSize zisUserIdMaxLength at hownerSize huserSize
  unfold zisSecurityClassMaxLength at hclassLength hclassSize
  rw [encoded_iff_reads (genresRadminParmList_eq haccepted hcaller hclass hclassLength haction)]
  by_cases hall : GivesAllAccess (.genres parm)
  · have hnone : getAccessString parm.accessType = none :=
      (getAccessString_none_iff (hbounds.accessType hall.1)).mpr hall.2
    rw [hpermit.mpr hall.1, constructResAdminParmList_none hnone]
    constructor
    · rintro ⟨image, hbuilt, -⟩
      cases hbuilt
    · intro h
      exact absurd hall h.1
  · have haccess : mapZisToRadminResAction parm.function = .permit →
        getAccessString parm.accessType = some ((getAccessString parm.accessType).getD []) := by
      intro hgive
      have hrange := hbounds.accessType (hpermit.mp hgive)
      have hsome : getAccessString parm.accessType ≠ none := by
        intro hnone
        exact hall ⟨hpermit.mp hgive, (getAccessString_none_iff hrange).mp hnone⟩
      obtain ⟨accessString, hstring⟩ := Option.ne_none_iff_exists'.mp hsome
      rw [hstring, Option.getD_some]
    have haccessLength : ((getAccessString parm.accessType).getD []).length < 256 := by
      cases hstring : getAccessString parm.accessType with
      | none => decide
      | some accessString => exact length_getAccessString hstring
    have hreads := constructResAdminParmList_reads radmin
      (hasFlag parm.flags zisGenresAdminFlagDryrun) hclassSize hclassLength
      (by omega : parm.profile.length ≤ parm.profile.value.length) (by omega)
      (by omega : (parm.withOwner caller).owner.length ≤
        (parm.withOwner caller).owner.value.length) (by omega)
      (by omega : parm.user.length ≤ parm.user.value.length) (by omega) haccess haccessLength
    have hlist : requestList radmin env (.genres parm) =
        radmin.askedList radmin.res (hasFlag parm.flags zisGenresAdminFlagDryrun)
          userClassParm.text
          [resFields (mapZisToRadminResAction parm.function) parm.profile.text
            (parm.withOwner caller).owner.text parm.user.text
            ((getAccessString parm.accessType).getD [])] := by
      rw [← hcallerEq, ← hclassEq]
      rfl
    obtain ⟨field, fields, hcons⟩ :=
      resFields_cons (mapZisToRadminResAction parm.function) parm.profile.text
        (parm.withOwner caller).owner.text parm.user.text
        ((getAccessString parm.accessType).getD [])
    have hblank := blankList_eq_iff radmin radmin.res (hasFlag parm.flags zisGenresAdminFlagDryrun)
      userClassParm.text field fields
    rw [← hcons, ← hlist] at hblank
    refine (hreads.iff _).trans (hblank.trans ?_)
    exact ⟨fun h => ⟨hall, h⟩, And.right⟩

/-- **A group.** It is added with a list that is read, and deleted with one that is not. -/
theorem group_encoded_iff (htyped : RequestTyped (.group groupParm))
    (haccepted : Accepted (.group groupParm)) (hprovided : Provided env (.group groupParm))
    (hgroupAction : groupParm.function = zisGroupAdminSrvFcAdd ∨
      groupParm.function = zisGroupAdminSrvFcDelete) :
    Encoded radmin env (.group groupParm) ↔
      ¬DeletesGroup (.group groupParm) ∧
        CleanFlags radmin (requestHeader radmin (.group groupParm))
          (requestIsDryRun (.group groupParm)) := by
  obtain ⟨hgroupSize, hsuperiorSize, -⟩ := htyped
  obtain ⟨caller, hcaller⟩ := hprovided
  have hbounds : GroupAccepted groupParm := validateGroupParmList_ok haccepted
  have hgroup := hbounds.group
  have hsuperior := hbounds.superiorGroup
  have hvalid : ¬validateGroupParmList groupParm ≠ rcZisGrpasrvOk := not_not.mpr haccepted
  unfold HasSize zisSecurityGroupMaxLength at hgroupSize hsuperiorSize
  have hparm : requestParmList radmin env (.group groupParm) =
      if mapZisToRadminGroupAction groupParm.function = .na then .refused rcZisGrpasrvBadFunction
      else
        .ofConstructed rcZisGrpasrvParmInternalError
          (constructGroupAdminParmList radmin parmListBufferSize
            (mapZisToRadminGroupAction groupParm.function)
            (hasFlag groupParm.flags zisGroupAdminFlagDryrun) groupParm.group.value
            groupParm.group.length groupParm.superiorGroup.value
            groupParm.superiorGroup.length) := by
    unfold requestParmList groupRadminParmList
    dsimp only
    rw [if_neg hvalid, hcaller]
    dsimp only
    rw [if_pos hgroupAction]
  have hheader : requestHeader radmin (.group groupParm) = radmin.group := if_pos hgroupAction
  have hlist : requestList radmin env (.group groupParm) =
      radmin.askedList radmin.group (hasFlag groupParm.flags zisGroupAdminFlagDryrun)
        groupParm.group.text
        (groupSegments (mapZisToRadminGroupAction groupParm.function)
          groupParm.superiorGroup.text) := by
    unfold requestList requestName requestSegments
    rw [hheader]
    dsimp only
    rw [if_pos hgroupAction, if_pos hgroupAction]
    rfl
  rcases hgroupAction with hadd | hdelete
  · rw [hadd] at hparm hlist
    have hnot : ¬DeletesGroup (.group groupParm) := by
      intro hdelete
      have hdelete : groupParm.function = zisGroupAdminSrvFcDelete := hdelete
      rw [hadd] at hdelete
      exact absurd hdelete (by decide)
    have hreads := constructGroupAdminParmList_reads radmin
      (hasFlag groupParm.flags zisGroupAdminFlagDryrun)
      (by omega : groupParm.group.length ≤ groupParm.group.value.length) (by omega)
      (by omega : groupParm.superiorGroup.length ≤ groupParm.superiorGroup.value.length)
      (by omega)
    rw [encoded_iff_reads hparm, hheader]
    have hblank := blankList_eq_iff radmin radmin.group
      (hasFlag groupParm.flags zisGroupAdminFlagDryrun) groupParm.group.text
      (supgroupName, groupParm.superiorGroup.text) [(universlName, [])]
    refine (hreads.iff _).trans ?_
    rw [hlist]
    refine hblank.trans ?_
    exact ⟨fun h => ⟨hnot, h⟩, And.right⟩
  · rw [hdelete] at hparm hlist
    rw [encoded_iff_reads hparm, hheader, hlist]
    constructor
    · intro hreads
      exact absurd hreads (constructGroupAdminParmList_delete
        (by omega : groupParm.group.length ≤ groupParm.group.value.length) (by omega) rfl)
    · intro h
      exact absurd hdelete h.1

/-- **Connections.** -/
theorem connection_encoded_iff (htyped : RequestTyped (.group groupParm))
    (haccepted : Accepted (.group groupParm)) (hprovided : Provided env (.group groupParm))
    (hother : ¬(groupParm.function = zisGroupAdminSrvFcAdd ∨
      groupParm.function = zisGroupAdminSrvFcDelete)) :
    Encoded radmin env (.group groupParm) ↔
      CleanFlags radmin (requestHeader radmin (.group groupParm))
        (requestIsDryRun (.group groupParm)) := by
  obtain ⟨hgroupSize, -, huserSize⟩ := htyped
  obtain ⟨caller, hcaller⟩ := hprovided
  have hbounds : GroupAccepted groupParm := validateGroupParmList_ok haccepted
  have hgroup := hbounds.group
  have huser := hbounds.user
  have hvalid : ¬validateGroupParmList groupParm ≠ rcZisGrpasrvOk := not_not.mpr haccepted
  unfold HasSize zisSecurityGroupMaxLength at hgroupSize
  unfold HasSize zisUserIdMaxLength at huserSize
  obtain ⟨haction, hadd⟩ : mapZisToRadminConnectionAction groupParm.function ≠ .na ∧
      (mapZisToRadminConnectionAction groupParm.function = .addConnection →
        groupParm.function = zisGroupAdminSrvFcConnectUser) := by
    have hrange := hbounds.function
    unfold zisGroupAdminSrvFcAdd zisGroupAdminSrvFcDelete at hother
    obtain h | h : groupParm.function = 2 ∨ groupParm.function = 3 := by omega
    · rw [h]
      decide
    · rw [h]
      decide
  have hparm : requestParmList radmin env (.group groupParm) =
      .ofConstructed rcZisGrpasrvParmInternalError
        (constructConnectionAdminParmList radmin parmListBufferSize
          (mapZisToRadminConnectionAction groupParm.function)
          (hasFlag groupParm.flags zisGroupAdminFlagDryrun) groupParm.user.value
          groupParm.user.length groupParm.group.value groupParm.group.length
          groupParm.accessType) := by
    unfold requestParmList groupRadminParmList
    dsimp only
    rw [if_neg hvalid, hcaller]
    dsimp only
    rw [if_neg hother, if_neg haction]
  have hheader : requestHeader radmin (.group groupParm) = radmin.connection := if_neg hother
  have hlist : requestList radmin env (.group groupParm) =
      radmin.askedList radmin.connection (hasFlag groupParm.flags zisGroupAdminFlagDryrun)
        groupParm.user.text
        [connectionFields (mapZisToRadminConnectionAction groupParm.function)
          groupParm.group.text ((getGroupAccessString groupParm.accessType).getD [])] := by
    unfold requestList requestName requestSegments
    rw [hheader]
    dsimp only
    rw [if_neg hother, if_neg hother]
    rfl
  have haccess : mapZisToRadminConnectionAction groupParm.function = .addConnection →
      getGroupAccessString groupParm.accessType =
        some ((getGroupAccessString groupParm.accessType).getD []) := by
    intro h
    obtain ⟨accessString, hstring⟩ := getGroupAccessString_some (hbounds.accessType (hadd h))
    rw [hstring, Option.getD_some]
  have haccessLength : ((getGroupAccessString groupParm.accessType).getD []).length < 256 := by
    cases hstring : getGroupAccessString groupParm.accessType with
    | none => decide
    | some accessString => exact length_getGroupAccessString hstring
  have hreads := constructConnectionAdminParmList_reads radmin
    (hasFlag groupParm.flags zisGroupAdminFlagDryrun)
    (by omega : groupParm.user.length ≤ groupParm.user.value.length) (by omega)
    (by omega : groupParm.group.length ≤ groupParm.group.value.length) (by omega) haccess
    haccessLength
  obtain ⟨field, fields, hcons⟩ :=
    connectionFields_cons (mapZisToRadminConnectionAction groupParm.function)
      groupParm.group.text ((getGroupAccessString groupParm.accessType).getD [])
  have hblank := blankList_eq_iff radmin radmin.connection
    (hasFlag groupParm.flags zisGroupAdminFlagDryrun) groupParm.user.text field fields
  rw [← hcons, ← hlist] at hblank
  rw [encoded_iff_reads hparm, hheader]
  exact (hreads.iff _).trans hblank

end

/-- **Parm lists say what is asked.** The list of a request that is accepted is built, stays in its
buffer and is read back as what the request asks for, exactly when the request does not give the
access that has no string, does not delete a group, and is a dry run, and the masks that are raised
in blanks have the bits of a blank. -/
theorem encoded_iff (radmin : RadminLayout) (env : RacfEnv) (request : AdminRequest)
    (htyped : RequestTyped request) (haccepted : Accepted request)
    (hprovided : Provided env request) :
    Encoded radmin env request ↔
      ¬GivesAllAccess request ∧ ¬DeletesGroup request ∧
        CleanFlags radmin (requestHeader radmin request) (requestIsDryRun request) := by
  cases request with
  | genres parm =>
    rw [genres_encoded_iff htyped haccepted hprovided]
    exact ⟨fun h => ⟨h.1, id, h.2⟩, fun h => ⟨h.1, h.2.2⟩⟩
  | group parm =>
    by_cases hgroup : parm.function = zisGroupAdminSrvFcAdd ∨
        parm.function = zisGroupAdminSrvFcDelete
    · rw [group_encoded_iff htyped haccepted hprovided hgroup]
      exact ⟨fun h => ⟨id, h⟩, And.right⟩
    · rw [connection_encoded_iff htyped haccepted hprovided hgroup]
      have hnot : ¬DeletesGroup (.group parm) := fun hdelete => hgroup (.inr hdelete)
      exact ⟨fun h => ⟨id, hnot, h⟩, fun h => h.2.2⟩

/-! ## Samples -/

/-- Codes of the characters of names in EBCDIC. -/
def sampleCharCode (c : Char) : Byte :=
  let n := c.toNat
  if c = ' ' then 64
  else if 65 ≤ n ∧ n ≤ 73 then BitVec.ofNat 8 (n + 128)
  else if 74 ≤ n ∧ n ≤ 82 then BitVec.ofNat 8 (n + 135)
  else if 83 ≤ n ∧ n ≤ 90 then BitVec.ofNat 8 (n + 143)
  else if c = '.' then 75
  else 0

/-- A name, a flag byte and a count of two bytes. -/
def sampleEntry : EntryLayout where
  size := 11
  name := ⟨0, 8⟩
  flag := ⟨8, 1⟩
  count := ⟨9, 2⟩
  flagY := [sampleCharCode 'Y']
  name_size := rfl
  flag_size := rfl
  count_pos := by decide
  flag_pos := by decide
  name_inside := by unfold Member.Inside; decide
  flag_inside := by unfold Member.Inside; decide
  count_inside := by unfold Member.Inside; decide
  name_flag := by unfold Member.Apart; decide
  name_count := by unfold Member.Apart; decide
  flag_count := by unfold Member.Apart; decide
  size_le := by decide

def sampleHeader : HeaderLayout where
  size := 12
  nameLength := ⟨0, 1⟩
  name := ⟨1, 8⟩
  flags := ⟨9, 1⟩
  segmentCount := ⟨10, 2⟩
  norun := [128]
  retcmd := [64]
  name_size := rfl
  norun_size := rfl
  retcmd_size := rfl
  nameLength_pos := by decide
  flags_pos := by decide
  segmentCount_pos := by decide
  nameLength_inside := by unfold Member.Inside; decide
  name_inside := by unfold Member.Inside; decide
  flags_inside := by unfold Member.Inside; decide
  segmentCount_inside := by unfold Member.Inside; decide
  nameLength_name := by unfold Member.Apart; decide
  nameLength_flags := by unfold Member.Apart; decide
  nameLength_segmentCount := by unfold Member.Apart; decide
  name_flags := by unfold Member.Apart; decide
  name_segmentCount := by unfold Member.Apart; decide
  flags_segmentCount := by unfold Member.Apart; decide
  size_le := by decide

def sampleRadmin : RadminLayout where
  charCode := sampleCharCode
  res := sampleHeader
  group := sampleHeader
  connection := sampleHeader
  segment := sampleEntry
  field := sampleEntry
  blank_ne := by decide

/-- A field with an array of a size. -/
def sampleField (size : Nat) (text : Text) : CountedText :=
  ⟨text.length, text ++ List.replicate (size - text.length) (Char.ofNat 0)⟩

def sampleRacfEnv : RacfEnv where
  secmgmtGetCallerUserID := some (sampleField 8 ['A', 'D', 'M', 'I', 'N'])
  userClass := .ok (sampleField 16 ['Z', 'O', 'W', 'E'])
  caller_length := by
    intro caller h
    cases h
    decide
  userClass_length := by
    intro parm h
    cases h
    decide

/-- A request for a user's access to a profile. -/
def sampleRequest (flags : BitVec 32) (function accessType : Int) : AdminRequest :=
  .genres
    { eyecatcher := Zss.Tss.zisGenresAdminServiceParmlistEyecatcher
      flags := flags
      function := function
      profile := sampleField 255 ['Z', 'O', 'W', 'E', '.', 'A']
      owner := sampleField 8 []
      user := sampleField 8 ['U', 'S', 'E', 'R']
      accessType := accessType
      output := Zss.Tss.zeroAdminOutput }

theorem encoded_iff_sample :
    Encoded sampleRadmin sampleRacfEnv (sampleRequest zisGenresAdminFlagDryrun 2 0) ↔
      ¬GivesAllAccess (sampleRequest zisGenresAdminFlagDryrun 2 0) ∧
        ¬DeletesGroup (sampleRequest zisGenresAdminFlagDryrun 2 0) ∧
        CleanFlags sampleRadmin (requestHeader sampleRadmin
          (sampleRequest zisGenresAdminFlagDryrun 2 0))
          (requestIsDryRun (sampleRequest zisGenresAdminFlagDryrun 2 0)) :=
  encoded_iff sampleRadmin sampleRacfEnv (sampleRequest zisGenresAdminFlagDryrun 2 0)
    ⟨by unfold HasSize; decide +kernel, by unfold HasSize; decide +kernel,
      by unfold HasSize; decide +kernel⟩
    (by unfold Accepted sampleRequest; decide +kernel)
    ⟨⟨_, rfl⟩, _, rfl, by decide⟩

theorem sampleRequest_accepted (flags : BitVec 32) {accessType : Int}
    (h : accessType = 0 ∨ accessType = 3) : Accepted (sampleRequest flags 2 accessType) := by
  show validateGenresParmList (_ : GenresAdminParmList) = rcZisGsadmnsrvOk
  rcases h with rfl | rfl
  all_goals
    unfold validateGenresParmList
    rfl

/-- The request that gives access to all is accepted and ends abnormally. The one that gives access
to read, and is no dry run, has a list that is not the one asked for. -/
theorem all_access_abends :
    Accepted (sampleRequest 0#32 2 3) ∧ Accepted (sampleRequest 0#32 2 0) ∧
      requestParmList sampleRadmin sampleRacfEnv (sampleRequest 0#32 2 3) = .abended ∧
      ¬Encoded sampleRadmin sampleRacfEnv (sampleRequest 0#32 2 3) ∧
      ¬Encoded sampleRadmin sampleRacfEnv (sampleRequest 0#32 2 0) := by
  have hall := sampleRequest_accepted 0#32 (.inr rfl)
  have hread := sampleRequest_accepted 0#32 (.inl rfl)
  have habends : requestParmList sampleRadmin sampleRacfEnv (sampleRequest 0#32 2 3) =
      .abended := by
    refine (genresRadminParmList_eq hall rfl rfl (by decide) (by decide)).trans ?_
    have hnone : getAccessString 3 = none := by decide
    exact congrArg _ (constructResAdminParmList_none hnone)
  refine ⟨hall, hread, habends, ?_, ?_⟩
  · rintro ⟨image, hbuilt, -⟩
    rw [habends] at hbuilt
    cases hbuilt
  · intro hencoded
    have hclean := (genres_encoded_iff
      ⟨by unfold HasSize; decide +kernel, by unfold HasSize; decide +kernel,
        by unfold HasSize; decide +kernel⟩ hread ⟨⟨_, rfl⟩, _, rfl, by decide⟩).mp hencoded
    exact absurd hclean.2.isDryRun (by decide)

end Zss.Racf
