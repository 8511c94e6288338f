import Zss.Tss.AccessList

/-!
# What the access list is of

`Whohas` says what `TSS WHOH` prints, line by line: permissions, each with the line of its profile
and user ID and the line of its access level, and lines of other keys. Against it, an OK reply holds
exactly the permissions of the profile when they fit the buffer of the caller. When they do not, the
reply is OK all the same, since the branch for insufficient space is never taken
(`accessList_reported_iff`).

## What is not established

Nothing is said of an output that is cut short, and not that TSS prints what its database holds. The
functions of the common library are assumed to do what they are documented to do
(`Utils.Documented`).
-/

namespace Zss.Tss

/-! ## The output of the command -/

/-- A permission: what to, whose, and the access level as it is stated. -/
structure Permission where
  profile : Text
  id : Text
  access : Text

/-- A line of a profile and a user ID. -/
structure XauthLine (profile id line : Text) : Prop where
  keyLine : ∃ gap rest, KeyLine tssXauthKey
    (profile ++ blanks gap ++ [' '] ++ tssAcidKey ++ (id ++ rest)) line ∧
      ¬ tssAcidKey <:+: id ++ rest
  profile_length : profile.length ≤ zisSecurityProfileMaxLength
  profile_end : ∃ init last, profile = init ++ [last] ∧ last ≠ ' '
  profile_text : nul ∉ profile
  id_length : id.length = 8

/-- A line of an access level. -/
structure AccessLine (access line : Text) : Prop where
  keyLine : KeyLine tssAccessKey access line
  access_text : nul ∉ access

/-- A line of other keys. -/
structure OtherLine (line : Text) : Prop where
  goes_on : tssIsOutputDone line = false
  no_xauth : ¬ NamesKey tssXauthKey line
  no_access : ¬ NamesKey tssAccessKey line

/-- The lines of permissions. -/
inductive Whohas : List Permission → List Text → Prop
  | done : Whohas [] []
  | other {perms line lines} : OtherLine line → Whohas perms lines → Whohas perms (line :: lines)
  | permission {perm perms xauth others access lines} : XauthLine perm.profile perm.id xauth →
    (∀ line ∈ others, OtherLine line) → AccessLine perm.access access → Whohas perms lines →
    Whohas (perm :: perms) (xauth :: (others ++ access :: lines))

/-- A complete output: the lines of the permissions and a line that ends it, the first of them in
the first block. -/
structure WhohasOutput (perms : List Permission) (blocks : List RadminCommandOutput) : Prop where
  lines : ∃ body last, outputLines blocks = body ++ [last] ∧ Whohas perms body ∧
    tssIsOutputDone last = true
  begins : ∃ block rest, blocks = block :: rest ∧ block.lines ≠ []

/-! ## What a call is for -/

/-- The access level of an entry: the one stated, in a field of 8, or `ALTER` for all access. -/
def accessTypeOf (access : Text) : Text :=
  if (fieldOf 8 access).take 3 = ['A', 'L', 'L'] then fieldOf 8 ['A', 'L', 'T', 'E', 'R']
  else fieldOf 8 access

def Permission.entry (perm : Permission) : ZisGenresAccessEntry :=
  ⟨perm.id, accessTypeOf perm.access⟩

/-- The permissions for a profile. -/
def permissionsOf (profile : Text) (perms : List Permission) : List Permission :=
  perms.filter (·.profile = profile)

/-- A call that succeeds returns an entry for each permission, and a call whose buffer is too small
says so, with their number. -/
structure ReportsAccessList (perms : List Permission) (capacity : Nat)
    (result : Int × Option AccessListReply) : Prop where
  entries : result.1 = rcZisAcslsrvOk → ∃ reply, result.2 = some reply ∧
    reply.resultBuffer = perms.map Permission.entry ∧
    reply.output.entriesExtracted = perms.length
  insufficient : capacity < perms.length →
    result.1 = rcZisAcslsrvInsufficientSpace ∧ ∃ reply, result.2 = some reply ∧
      reply.output.entriesFound = perms.length

/-- A call that gets to its command. -/
structure IssuesWhohas (env : AccessListEnv) (className : Text) (parm : AccessListParmList) :
    Prop where
  valid : validateGenresAccessListParmList parm = rcZisAcslsrvOk
  caller : env.secmgmtGetCallerUserID = true
  userClass : env.userClass = .ok className
  class_length : className.length ≤ zisSecurityClassMaxLength
  storage : env.safeMalloc (16 * parm.resultBufferCapacity) = true

/-! ## Lines -/

section

variable {utils : Utils}

theorem isKey_xauth : IsKey tssXauthKey := ⟨by decide, by decide, by decide⟩

theorem isKey_access : IsKey tssAccessKey := ⟨by decide, by decide, by decide⟩

theorem lastIndexOfString_acid (hutils : utils.Documented) (before : Text) {after : Text}
    (hafter : ¬ tssAcidKey <:+: after) :
    utils.lastIndexOfString (before ++ (tssAcidKey ++ after)) tssAcidKey = some before.length :=
  lastIndexOfString_last hutils (by decide) before hafter

theorem OtherLine.extract (hutils : utils.Documented) {line : Text} (h : OtherLine line)
    {searchProfile : Text} {walk next : AccessListWalk}
    (hnext : extractLine utils searchProfile walk line = some next) : next = walk := by
  rw [extractLine] at hnext
  split at hnext
  next => cases hnext
  next => cases hnext
  next n keys hparse =>
    split at hnext
    next keyIndex hfind =>
      exact absurd (tssFindDesiredKey_names hutils hparse isKey_xauth.ne_nil hfind) h.no_xauth
    next =>
      split at hnext
      next =>
        split at hnext
        next => exact (Option.some.inj hnext).symm
        next keyIndex hfind =>
          exact absurd (tssFindDesiredKey_names hutils hparse isKey_access.ne_nil hfind) h.no_access
      next => exact (Option.some.inj hnext).symm

theorem reportedAccessType_field (hutils : utils.Documented) (access : Text) :
    reportedAccessType utils (fieldOf 8 access) = accessTypeOf access := by
  have hpad : utils.padWithSpaces (['A', 'L', 'T', 'E', 'R'] ++ zeroBuffer 3) =
      fieldOf 8 ['A', 'L', 'T', 'E', 'R'] := hutils.padWithSpaces _ 3 (by decide)
  rw [reportedAccessType, accessTypeOf, hpad]

theorem AccessLine.extract (hutils : utils.Documented) {access line : Text}
    (h : AccessLine access line) (hshort : line.length < 65536) {searchProfile : Text}
    {walk next : AccessListWalk} (hentry : walk.entry.accessType = zeroBuffer 8)
    (hnext : extractLine utils searchProfile walk line = some next) :
    next = if walk.foundProfile then
        ⟨walk.buffer ++ [⟨walk.entry.id, accessTypeOf access⟩], .zero, false⟩
      else walk := by
  obtain ⟨found, before, hparse, hname, hlen, rfl, hdelim⟩ := h.keyLine.parse hutils isKey_access.phrase
  have hxauth : tssFindDesiredKey tssXauthKey ⟨found, .zero⟩ = none :=
    tssFindDesiredKey_other hname (by decide) isKey_xauth.ne_nil
  simp only [extractLine, hparse, hxauth, tssFindDesiredKey_self hname hlen, hentry] at hnext
  split at hnext
  next hfound =>
    split at hnext
    next => cases hnext
    next accessType hvalue =>
      have hstart : (TssKeys.key ⟨found, .zero⟩ 0).delimPos + tssKeyDelimiterLen =
          before.length := hdelim
      have hfield := tssFindValueForKey_field hutils List.take_length hstart (Nat.le_refl _)
        hshort (by omega) h.access_text hvalue
      rw [if_pos hfound, ← Option.some.inj hnext, hfield, reportedAccessType_field hutils]
  next hfound =>
    rw [if_neg hfound]
    exact (Option.some.inj hnext).symm

theorem XauthLine.extract (hutils : utils.Documented) {profile id line : Text}
    (h : XauthLine profile id line) (hshort : line.length < 65536) {searchProfile : Text}
    {walk next : AccessListWalk}
    (hnext : extractLine utils searchProfile walk line = some next) :
    next = if profile = searchProfile then
        { walk with entry := { walk.entry with id := id }, foundProfile := true }
      else walk := by
  obtain ⟨gap, rest, hline, hlast⟩ := h.keyLine
  obtain ⟨found, before, hparse, hname, hlen, hsplit, hdelim⟩ := hline.parse hutils isKey_xauth.phrase
  obtain ⟨init, last, hprofile, hblank⟩ := h.profile_end
  have hnul : last ≠ nul := by
    rintro rfl
    exact h.profile_text (hprofile ▸ List.mem_append_right init (List.mem_singleton_self nul))
  have hregion : nul ∉ profile ++ blanks gap := by
    intro hmem
    rcases List.mem_append.mp hmem with hmem | hmem
    · exact h.profile_text hmem
    · exact absurd (eq_blank_of_mem hmem) (by decide)
  -- the part of the line that the value is taken from
  obtain ⟨front, hfront⟩ : ∃ front, front = before ++ (profile ++ blanks gap) := ⟨_, rfl⟩
  have hshape : line = front ++ [' '] ++ (tssAcidKey ++ (id ++ rest)) := by
    rw [hsplit, hfront]
    simp only [List.append_assoc]
  have hacid : utils.lastIndexOfString line tssAcidKey = some (front ++ [' ']).length := by
    rw [hshape]
    exact lastIndexOfString_acid hutils _ hlast
  have hlens : line.length = front.length + 1 + (5 + (8 + rest.length)) := by
    rw [hshape, ← h.id_length]
    simp only [List.length_append]
    rfl
  have hend : u32 (((front ++ [' ']).length : Int) - 1) = front.length := by
    rw [List.length_append, List.length_singleton,
      show ((front.length + 1 : Nat) : Int) - 1 = front.length by omega]
    exact u32_natCast (by omega)
  have htake : line.take front.length = before ++ (profile ++ blanks gap) := by
    rw [hshape, List.append_assoc, List.take_left, hfront]
  have hid : (line.drop ((front ++ [' ']).length + 5)).take 8 = id := by
    rw [hshape, ← List.drop_drop, List.drop_left, ← h.id_length]
    exact List.take_left
  have hstart : (TssKeys.key ⟨found, .zero⟩ 0).delimPos + tssKeyDelimiterLen = before.length :=
    hdelim
  simp only [extractLine, hparse, tssFindDesiredKey_self hname hlen, readXauthLine, hacid, hend]
    at hnext
  split at hnext
  next => cases hnext
  next acidIndex isFound hread =>
    split at hread
    next => cases hread
    next tmpBuffer hvalue =>
      have hfield := tssFindValueForKey_field hutils htake hstart (by omega) hshort (by decide)
        hregion hvalue
      rw [fieldOf_append_blanks h.profile_length] at hfield
      have hactual : tssGetActualValueLength tmpBuffer = some profile.length := by
        rw [hfield, hprofile]
        exact tssGetActualValueLength_append_blanks hblank hnul
      cases hread
      rw [hactual, hid] at hnext
      by_cases hsame : profile = searchProfile
      · have hmatch : some profile.length = some searchProfile.length ∧
            tmpBuffer.take searchProfile.length = searchProfile := by
          rw [← hsame, hfield, List.take_left]
          exact ⟨rfl, rfl⟩
        rw [if_pos (decide_eq_true hmatch)] at hnext
        rw [if_pos hsame]
        exact (Option.some.inj hnext).symm
      · have hother : ¬ (some profile.length = some searchProfile.length ∧
            tmpBuffer.take searchProfile.length = searchProfile) := by
          rintro ⟨hl, htext⟩
          rw [← Option.some.inj hl, hfield, List.take_left] at htext
          exact hsame htext
        rw [if_neg fun h => hother (of_decide_eq_true h)] at hnext
        rw [if_neg hsame]
        exact (Option.some.inj hnext).symm

theorem XauthLine.goes_on {profile id line : Text} (h : XauthLine profile id line) :
    tssIsOutputDone line = false := by
  obtain ⟨gap, rest, hline, -⟩ := h.keyLine
  exact hline.goes_on isKey_xauth.phrase (by decide)

theorem AccessLine.goes_on {access line : Text} (h : AccessLine access line) :
    tssIsOutputDone line = false :=
  h.keyLine.goes_on isKey_access.phrase (by decide)

/-! ## The extracting pass -/

variable {searchProfile : Text} {capacity : Nat} {walk next : AccessListWalk} {line : Text}
  {lines : List Text}

theorem extractLines_stop (h : walk.buffer.length = capacity ∨ tssIsOutputDone line = true) :
    extractLines utils searchProfile capacity walk (line :: lines) = .stopped walk.buffer := by
  rw [extractLines, if_pos h]

/-- A line that is gone past, and all that can become of the walk there. -/
theorem extractLines_step (hgo : tssIsOutputDone line = false)
    (hroom : walk.buffer.length ≠ capacity)
    (hnext : ∀ w, extractLine utils searchProfile walk line = some w → w = next)
    (hok : extractLines utils searchProfile capacity walk (line :: lines) ≠ .failed) :
    extractLines utils searchProfile capacity walk (line :: lines) =
      extractLines utils searchProfile capacity next lines := by
  have hstop : ¬ (walk.buffer.length = capacity ∨ tssIsOutputDone line = true) := by
    rw [hgo]
    rintro (h | h)
    · exact hroom h
    · cases h
  rw [extractLines, if_neg hstop] at hok ⊢
  cases hline : extractLine utils searchProfile walk line with
  | none =>
    rw [hline] at hok
    exact absurd rfl hok
  | some w => rw [hnext w hline]

theorem extractLines_append (before after : List Text) :
    extractLines utils searchProfile capacity walk (before ++ after) =
      match extractLines utils searchProfile capacity walk before with
      | .passed walk => extractLines utils searchProfile capacity walk after
      | result => result := by
  induction before generalizing walk with
  | nil => rfl
  | cons line before ih =>
    rw [List.cons_append, extractLines, extractLines]
    split
    next => rfl
    next =>
      split
      next => rfl
      next => exact ih

/-- The pass goes over the blocks as over one. -/
theorem extractBlocks_eq (blocks : List RadminCommandOutput) :
    extractBlocks utils searchProfile capacity walk blocks =
      extractLines utils searchProfile capacity walk (outputLines blocks) := by
  induction blocks generalizing walk with
  | nil => rfl
  | cons block blocks ih =>
    rw [outputLines, List.flatMap_cons, extractLines_append, extractBlocks]
    cases extractLines utils searchProfile capacity walk block.lines with
    | failed => rfl
    | stopped buffer => rfl
    | passed walk => exact ih

theorem extractLines_others (hutils : utils.Documented) {others : List Text}
    (hothers : ∀ line ∈ others, OtherLine line) (hroom : walk.buffer.length ≠ capacity)
    (hok : extractLines utils searchProfile capacity walk (others ++ lines) ≠ .failed) :
    extractLines utils searchProfile capacity walk (others ++ lines) =
      extractLines utils searchProfile capacity walk lines := by
  induction others with
  | nil => rfl
  | cons line others ih =>
    have hother := hothers line List.mem_cons_self
    rw [List.cons_append] at hok ⊢
    have hstep := extractLines_step hother.goes_on hroom (fun w => hother.extract hutils) hok
    rw [hstep] at hok ⊢
    exact ih (fun line hline => hothers line (List.mem_cons_of_mem _ hline)) hok

/-- The lines of a permission are gone past with its entry extracted, if it is one of the
profile's. -/
theorem extractLines_permission (hutils : utils.Documented) {perm : Permission}
    {xauth access : Text} {others : List Text} (hxauth : XauthLine perm.profile perm.id xauth)
    (hothers : ∀ line ∈ others, OtherLine line) (haccess : AccessLine perm.access access)
    (hxauthShort : xauth.length < 65536) (haccessShort : access.length < 65536)
    (hentry : walk.entry.accessType = zeroBuffer 8) (hfound : walk.foundProfile = false)
    (hroom : walk.buffer.length ≠ capacity)
    (hok : extractLines utils searchProfile capacity walk
      (xauth :: (others ++ access :: lines)) ≠ .failed) :
    extractLines utils searchProfile capacity walk (xauth :: (others ++ access :: lines)) =
      extractLines utils searchProfile capacity
        (if perm.profile = searchProfile then ⟨walk.buffer ++ [perm.entry], .zero, false⟩
          else walk) lines := by
  have hxauthStep := extractLines_step hxauth.goes_on hroom
    (fun w => hxauth.extract hutils hxauthShort) hok
  rw [hxauthStep] at hok ⊢
  generalize hfirst : (if perm.profile = searchProfile then
    { walk with entry := { walk.entry with id := perm.id }, foundProfile := true }
    else walk) = first at hok ⊢
  have hbuffer : first.buffer = walk.buffer := by
    rw [← hfirst]
    split <;> rfl
  have haccessType : first.entry.accessType = zeroBuffer 8 := by
    rw [← hfirst, ← hentry]
    split <;> rfl
  rw [← hbuffer] at hroom
  have hothersStep := extractLines_others hutils hothers hroom hok
  rw [hothersStep] at hok ⊢
  rw [extractLines_step haccess.goes_on hroom
    (fun w => haccess.extract hutils haccessShort haccessType) hok]
  congr 1
  by_cases hsame : perm.profile = searchProfile
  · rw [if_pos hsame] at hfirst ⊢
    rw [← hfirst]
    rfl
  · rw [if_neg hsame] at hfirst ⊢
    rw [← hfirst, hfound]
    rfl

theorem permissionsOf_cons (profile : Text) (perm : Permission) (perms : List Permission) :
    permissionsOf profile (perm :: perms) =
      if perm.profile = profile then perm :: permissionsOf profile perms
      else permissionsOf profile perms := by
  simp only [permissionsOf, List.filter_cons, decide_eq_true_eq]

/-- **Permissions are extracted in order.** From a walk between permissions, a pass that does not
fail stops with the entries of the profile's permissions, as many as there is room for. -/
theorem Whohas.extract (hutils : utils.Documented) {perms : List Permission} {body : List Text}
    {last : Text} (h : Whohas perms body) (hlast : tssIsOutputDone last = true)
    (hshort : ∀ line ∈ body, line.length < 65536)
    (hentry : walk.entry.accessType = zeroBuffer 8) (hfound : walk.foundProfile = false)
    (hroom : walk.buffer.length ≤ capacity)
    (hok : extractLines utils searchProfile capacity walk (body ++ [last]) ≠ .failed) :
    extractLines utils searchProfile capacity walk (body ++ [last]) =
      .stopped ((walk.buffer ++
        (permissionsOf searchProfile perms).map Permission.entry).take capacity) := by
  -- a full buffer stops the pass at whatever line comes
  have hfull : ∀ {walk : AccessListWalk} {perms : List Permission} {line : Text} {lines : List Text},
      walk.buffer.length = capacity →
      extractLines utils searchProfile capacity walk (line :: lines) =
        .stopped ((walk.buffer ++
          (permissionsOf searchProfile perms).map Permission.entry).take capacity) := by
    intro walk perms line lines hlen
    rw [extractLines_stop (.inl hlen), ← hlen, List.take_left]
  induction h generalizing walk with
  | done =>
    rw [List.nil_append, extractLines_stop (.inr hlast)]
    simp [permissionsOf, List.take_of_length_le hroom]
  | other hother _ ih =>
    by_cases hlen : walk.buffer.length = capacity
    · exact hfull hlen
    · rw [List.cons_append] at hok ⊢
      have hstep := extractLines_step hother.goes_on hlen (fun w => hother.extract hutils) hok
      rw [hstep] at hok ⊢
      exact ih (fun line hline => hshort line (List.mem_cons_of_mem _ hline)) hentry hfound hroom hok
  | @permission perm perms xauth others access lines hxauth hothers haccess _ ih =>
    by_cases hlen : walk.buffer.length = capacity
    · exact hfull hlen
    · have hxauthShort := hshort xauth List.mem_cons_self
      have haccessShort := hshort access (by simp)
      rw [List.cons_append, List.append_assoc, List.cons_append] at hok ⊢
      have hrest : ∀ line ∈ lines, line.length < 65536 := fun line hline =>
        hshort line (by simp [hline])
      have hstep := extractLines_permission hutils hxauth hothers haccess hxauthShort haccessShort
        hentry hfound hlen hok
      rw [hstep] at hok ⊢
      rw [permissionsOf_cons]
      by_cases hsame : perm.profile = searchProfile
      · rw [if_pos hsame] at hok ⊢
        have hone : (walk.buffer ++ [perm.entry]).length ≤ capacity := by
          rw [List.length_append, List.length_singleton]
          omega
        rw [ih hrest rfl rfl hone hok, if_pos hsame, List.map_cons, List.append_assoc,
          List.singleton_append]
      · rw [if_neg hsame] at hok ⊢
        rw [ih hrest hentry hfound hroom hok, if_neg hsame]

/-! ## Calls -/

/-- A handler that succeeds has the entries of the profile's permissions, as many as there is room
for. -/
theorem genresProfileAccessListHandler_entries (hutils : utils.Documented)
    {perms : List Permission} {blocks : List RadminCommandOutput} {status : RadminApiStatus}
    {parms : TssGenresProfileAccessListParms} (hout : WhohasOutput perms blocks)
    (h : genresProfileAccessListHandler utils searchProfile capacity status blocks = (0, parms)) :
    parms.tmpResultBuffer =
        ((permissionsOf searchProfile perms).map Permission.entry).take capacity ∧
      parms.entriesExtracted = parms.tmpResultBuffer.length := by
  obtain ⟨block, rest, rfl, -⟩ := hout.begins
  obtain ⟨body, last, hlines, hwhohas, hlast⟩ := hout.lines
  have hshort : ∀ line ∈ body, line.length < 65536 := by
    intro line hline
    have hmem : line ∈ outputLines (block :: rest) := by
      rw [hlines]
      exact List.mem_append_left [last] hline
    obtain ⟨b, -, hb⟩ := List.mem_flatMap.mp hmem
    exact b.short line hb
  have hextract : ∀ result, result ≠ .failed →
      extractBlocks utils searchProfile capacity ⟨[], .zero, false⟩ (block :: rest) = result →
      result =
        .stopped (((permissionsOf searchProfile perms).map Permission.entry).take capacity) := by
    rintro result hok rfl
    rw [extractBlocks_eq, hlines] at hok ⊢
    exact hwhohas.extract hutils hlast hshort rfl rfl (Nat.zero_le capacity) hok
  rw [genresProfileAccessListHandler] at h
  split at h
  next hracf => exact absurd (congrArg Prod.fst h) hracf
  next =>
    split at h
    next => cases h
    next =>
      split at h
      next => cases h
      next => cases h
      next entriesFound hcount =>
        split at h
        next => cases h
        next buffer hbuffer =>
          have hentries := hextract _ (by simp) hbuffer
          cases hentries
          cases h
          exact ⟨rfl, rfl⟩
        next walk hpassed => cases hextract _ (by simp) hpassed

/-- What a call that gets to its command gives back. -/
theorem zisGenresAccessListServiceFunctionTSS_eq {env : AccessListEnv} {className : Text}
    {parm : AccessListParmList} (h : IssuesWhohas env className parm) :
    zisGenresAccessListServiceFunctionTSS utils env (some parm) =
      (runWhohas utils (env.radminRunRACFCommand (whohasCommand className parm.searchProfile))
        parm).map id some := by
  have hclass : ¬ className.length > zisSecurityClassMaxLength := Nat.not_lt.mpr h.class_length
  simp [zisGenresAccessListServiceFunctionTSS, h.valid, h.caller, h.userClass, h.storage, hclass]

/-- No call says that there is too little space. -/
theorem runWhohas_ne_insufficient (run : RadminRun) (parm : AccessListParmList) :
    (runWhohas utils run parm).1 ≠ rcZisAcslsrvInsufficientSpace := by
  simp only [runWhohas]
  split
  next => nofun
  next hfailed =>
    split
    next hspace => exact absurd hspace.1 hfailed
    next => nofun

/-- A call that succeeds has the entries of the profile's permissions, as many as there is room
for. -/
theorem runWhohas_entries (hutils : utils.Documented) {run : RadminRun} {perms : List Permission}
    (hout : WhohasOutput perms run.output)
    (hrc : ∀ handlerRC, run.rc handlerRC = rcRadminOk → handlerRC = 0) {parm : AccessListParmList}
    (hok : (runWhohas utils run parm).1 = rcZisAcslsrvOk) :
    (runWhohas utils run parm).2.resultBuffer =
        ((permissionsOf parm.searchProfile perms).map Permission.entry).take
          parm.resultBufferCapacity ∧
      (runWhohas utils run parm).2.output.entriesExtracted =
        (runWhohas utils run parm).2.resultBuffer.length := by
  cases hhandler : genresProfileAccessListHandler utils parm.searchProfile
    parm.resultBufferCapacity run.apiStatus run.output with
  | mk handlerRC parms =>
    by_cases hrun : run.rc handlerRC = rcRadminOk
    · cases hrc handlerRC hrun
      obtain ⟨hbuffer, hcount⟩ := genresProfileAccessListHandler_entries hutils hout hhandler
      simp only [runWhohas, hhandler, if_pos hrun, hcount, List.take_length]
      exact ⟨hbuffer, trivial⟩
    · simp only [runWhohas, hhandler, if_neg hrun, if_neg (not_and_of_not_left _ hrun)] at hok
      cases hok

end

/-! ## A call -/

def sampleProfile : Text := ['C', 'P', '.', 'A']

def sampleXauth (id : Text) : Text :=
  keyText 1 tssXauthKey 4 ++ (sampleProfile ++ blanks 1 ++ [' '] ++ tssAcidKey ++ (id ++ [')']))

def sampleAccess (access : Text) : Text := keyText 3 tssAccessKey 4 ++ access

def samplePerms : List Permission :=
  [⟨sampleProfile, ['U', 'S', 'E', 'R', '1', ' ', ' ', ' '], ['R', 'E', 'A', 'D']⟩,
    ⟨sampleProfile, ['U', 'S', 'E', 'R', '2', ' ', ' ', ' '], ['A', 'L', 'L']⟩]

/-- The output for the permissions, in two blocks. -/
def sampleOutput : List RadminCommandOutput :=
  [⟨[sampleXauth ['U', 'S', 'E', 'R', '1', ' ', ' ', ' '], sampleAccess ['R', 'E', 'A', 'D'],
      sampleXauth ['U', 'S', 'E', 'R', '2', ' ', ' ', ' ']], by decide⟩,
    ⟨[sampleAccess ['A', 'L', 'L'], tssCommandSuccess], by decide⟩]

def sampleEnv : AccessListEnv where
  secmgmtGetCallerUserID := true
  userClass := .ok ['Z', 'O', 'W', 'E']
  safeMalloc _ := true
  radminRunRACFCommand _ := ⟨⟨0, 0, 0⟩, 0, sampleOutput, fun h => if h = 0 then 0 else 8⟩

def sampleParm (capacity : Nat) : AccessListParmList where
  eyecatcher := zisAclistServiceParmlistEyecatcher
  classLength := 0
  profileLength := 4
  profileValue := sampleProfile
  resultBuffer := true
  resultBufferCapacity := capacity
  output := ⟨0, 0, 0, 0, ⟨0, 0, 0⟩⟩

theorem sampleParm_issues (capacity : Nat) :
    IssuesWhohas sampleEnv ['Z', 'O', 'W', 'E'] (sampleParm capacity) :=
  ⟨rfl, rfl, rfl, by decide, rfl⟩

theorem sampleXauth_line {id : Text} (hlen : id.length = 8)
    (hkey : ∀ i < (sampleXauth id).length, occursAt tssKeyDelimiter (sampleXauth id) i = true →
      i = 10) (hacid : ¬ tssAcidKey <:+: id ++ [')']) :
    XauthLine sampleProfile id (sampleXauth id) where
  keyLine := ⟨1, [')'], .of_bounded 1 4 rfl hkey, hacid⟩
  profile_length := by decide
  profile_end := ⟨['C', 'P', '.'], 'A', rfl, by decide⟩
  profile_text := by decide
  id_length := hlen

theorem sampleAccess_line {access : Text} (hnul : nul ∉ access)
    (hkey : ∀ i < (sampleAccess access).length,
      occursAt tssKeyDelimiter (sampleAccess access) i = true → i = 13) :
    AccessLine access (sampleAccess access) :=
  ⟨.of_bounded 3 4 rfl hkey, hnul⟩

theorem sampleOutput_whohas : WhohasOutput samplePerms sampleOutput where
  lines := by
    refine ⟨[_, _, _, _], _, rfl, ?_, rfl⟩
    refine .permission (sampleXauth_line rfl ?_ ?_) (List.forall_mem_nil _)
      (sampleAccess_line ?_ ?_) (.permission (sampleXauth_line rfl ?_ ?_) (List.forall_mem_nil _)
        (sampleAccess_line ?_ ?_) .done)
    all_goals decide +kernel
  begins := ⟨_, _, rfl, by decide⟩

end Zss.Tss
