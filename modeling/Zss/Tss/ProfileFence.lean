import Zss.Tss.Admin

/-!
# The fence around the profiles

`validateGenresParmList` lets the administration of profiles touch the product's own profiles only:
the first qualifier of the profile must be the name of a supported product. The name is compared
where the counted text is long enough for the name alone, and the period behind it is then looked
for in the field, whether it is within the counted text or not.

A request is fenced when the bytes behind its counted text decide nothing and, if it is accepted,
its profile begins with the name and the period.

## What is not established

What TSS itself would refuse, and what the other functions make of a profile that is accepted: only
the validator's answer is compared.
-/

namespace Zss.Tss

/-- The name of the product with the period behind it. -/
def productQualifier : Text := ['Z', 'O', 'W', 'E', '.']

/-- The request with other bytes in the field of its profile. -/
def GenresAdminParmList.withProfileValue (parm : GenresAdminParmList) (value : Text) :
    GenresAdminParmList :=
  { parm with profile := { parm.profile with value := value } }

/-- The bytes behind the counted profile decide nothing, and a profile that is accepted is the
product's. -/
structure Fenced (parm : GenresAdminParmList) : Prop where
  alike : ∀ value : Text, value.length = parm.profile.value.length →
    value.take parm.profile.length = parm.profile.text →
    validateGenresParmList (parm.withProfileValue value) = validateGenresParmList parm
  product : validateGenresParmList parm = rcZisGsadmnsrvOk →
    productQualifier.isPrefixOf parm.profile.text = true

/-- The validator comes to the product of the profile. -/
structure Examined (parm : GenresAdminParmList) : Prop where
  eyecatcher : parm.eyecatcher = zisGenresAdminServiceParmlistEyecatcher
  function : 0 ≤ parm.function ∧ parm.function ≤ 3
  profile : parm.profile.length ≤ zisSecurityProfileMaxLength
  owner : parm.owner.length ≤ zisUserIdMaxLength

/-- The profile is the name of the product and nothing else. -/
def BareProduct (profile : CountedText) : Prop :=
  profile.length = 4 ∧ profile.text = ['Z', 'O', 'W', 'E']

/-! ## What the validator looks at -/

variable {profile : CountedText}

theorem isProfileProductSupported_iff :
    isProfileProductSupported profile = true ↔
      4 ≤ profile.length ∧ profile.value.take 4 = ['Z', 'O', 'W', 'E'] ∧
        profile.value[4]? = some '.' := by
  simp [isProfileProductSupported, zisGenresProducts, and_assoc]

theorem supported_congr {value : Text} (longer : 5 ≤ profile.length)
    (same : value.take profile.length = profile.text) :
    isProfileProductSupported ⟨profile.length, value⟩ = isProfileProductSupported profile := by
  have front : value.take 5 = profile.value.take 5 := by
    have := congrArg (List.take 5) same
    rwa [CountedText.text, List.take_take, List.take_take, Nat.min_eq_left longer] at this
  have name : value.take 4 = profile.value.take 4 := by
    have := congrArg (List.take 4) front
    rwa [List.take_take, List.take_take] at this
  have period : value[4]? = profile.value[4]? := by
    have := congrArg (·[4]?) front
    simpa [List.getElem?_take] using this
  rw [Bool.eq_iff_iff, isProfileProductSupported_iff, isProfileProductSupported_iff, name, period]

theorem unsupported_of_short
    (h : profile.length < 4 ∨ profile.length = 4 ∧ profile.text ≠ ['Z', 'O', 'W', 'E']) :
    isProfileProductSupported profile = false := by
  rw [Bool.eq_false_iff]
  intro supported
  obtain ⟨long, name, -⟩ := isProfileProductSupported_iff.mp supported
  rcases h with h | ⟨h, other⟩
  · omega
  · rw [CountedText.text, h] at other
    exact other name

/-- Where the validator comes to the profile, it goes by the product. -/
theorem validateGenresParmList_examined {parm : GenresAdminParmList} (examined : Examined parm) :
    validateGenresParmList parm = rcZisGsadmnsrvUnsupportedProduct ↔
      isProfileProductSupported parm.profile = false := by
  have function : ¬ (parm.function < 0 ∨ 3 < parm.function) := by
    have := examined.function
    omega
  unfold validateGenresParmList
  rw [if_neg (not_not.mpr examined.eyecatcher), if_neg function,
    if_neg (Nat.not_lt.mpr examined.profile), if_neg (Nat.not_lt.mpr examined.owner)]
  cases isProfileProductSupported parm.profile with
  | false => simp
  | true =>
    simp only [Bool.not_true, Bool.false_eq_true, if_false, Bool.true_eq_false, iff_false]
    repeat' split
    all_goals decide

/-- What the validator answers is what it answers for a profile that is as long and as much the
product's. -/
theorem validateGenresParmList_congr {parm : GenresAdminParmList} {value : Text}
    (h : Examined parm → isProfileProductSupported ⟨parm.profile.length, value⟩ =
      isProfileProductSupported parm.profile) :
    validateGenresParmList (parm.withProfileValue value) = validateGenresParmList parm := by
  obtain ⟨eyecatcher, flags, function, ⟨length, bytes⟩, owner, user, accessType, output⟩ := parm
  simp only [GenresAdminParmList.withProfileValue] at h ⊢
  unfold validateGenresParmList
  dsimp only
  by_cases h₁ : eyecatcher ≠ zisGenresAdminServiceParmlistEyecatcher
  · rw [if_pos h₁, if_pos h₁]
  by_cases h₂ : function < 0 ∨ 3 < function
  · rw [if_neg h₁, if_neg h₁, if_pos h₂, if_pos h₂]
  by_cases h₃ : length > zisSecurityProfileMaxLength
  · rw [if_neg h₁, if_neg h₁, if_neg h₂, if_neg h₂, if_pos h₃, if_pos h₃]
  by_cases h₄ : owner.length > zisUserIdMaxLength
  · rw [if_neg h₁, if_neg h₁, if_neg h₂, if_neg h₂, if_neg h₃, if_neg h₃, if_pos h₄, if_pos h₄]
  rw [h ⟨not_not.mp h₁, by dsimp only; omega, Nat.not_lt.mp h₃, Nat.not_lt.mp h₄⟩]

theorem examined_of_ok {parm : GenresAdminParmList}
    (accepted : validateGenresParmList parm = rcZisGsadmnsrvOk) : Examined parm := by
  unfold validateGenresParmList at accepted
  split at accepted
  next => cases accepted
  next eyecatcher =>
  split at accepted
  next => cases accepted
  next function =>
  split at accepted
  next => cases accepted
  next profile =>
  split at accepted
  next => cases accepted
  next owner =>
  exact ⟨not_not.mp eyecatcher, by omega, Nat.not_lt.mp profile, Nat.not_lt.mp owner⟩

/-- A supported profile that is more than the name of the product is the product's. -/
theorem product_of_supported (supported : isProfileProductSupported profile = true)
    (longer : 5 ≤ profile.length) : productQualifier.isPrefixOf profile.text = true := by
  obtain ⟨-, name, period⟩ := isProfileProductSupported_iff.mp supported
  rw [List.isPrefixOf_iff_prefix, List.prefix_iff_eq_take, CountedText.text, List.take_take]
  have short : min productQualifier.length profile.length = 4 + 1 := Nat.min_eq_left longer
  rw [short, List.take_add_one, name, period]
  rfl

/-- **The fence holds but at its post.** Whether the profile is accepted depends on the counted text
alone, and an accepted profile is the product's, exactly if the validator does not come to a profile
that is the product's name and nothing else. -/
theorem profile_fence (parm : GenresAdminParmList)
    (field : parm.profile.value.length = zisSecurityProfileMaxLength) :
    Fenced parm ↔ ¬ (Examined parm ∧ BareProduct parm.profile) := by
  constructor
  · rintro fenced ⟨examined, length, text⟩
    rw [CountedText.text, length] at text
    -- the byte behind the name, once a period and once not
    have answer (c : Char) : validateGenresParmList parm = rcZisGsadmnsrvUnsupportedProduct ↔
        c ≠ '.' := by
      let value : Text := ['Z', 'O', 'W', 'E', c] ++ parm.profile.value.drop 5
      have same : validateGenresParmList (parm.withProfileValue value) =
          validateGenresParmList parm := by
        refine fenced.alike value ?_ ?_
        · have : 255 = zisSecurityProfileMaxLength := rfl
          simp [value, field]
          omega
        · rw [CountedText.text, length, text]
          rfl
      have examined' : Examined (parm.withProfileValue value) :=
        ⟨examined.eyecatcher, examined.function, examined.profile, examined.owner⟩
      rw [← same, validateGenresParmList_examined examined', Bool.eq_false_iff, ne_eq,
        isProfileProductSupported_iff]
      simp [GenresAdminParmList.withProfileValue, value, length]
    exact absurd ((answer 'X').mpr (by decide)) (mt (answer '.').mp (by decide))
  · intro h
    have short_or_longer (examined : Examined parm) : 5 ≤ parm.profile.length ∨
        parm.profile.length < 4 ∨
          parm.profile.length = 4 ∧ parm.profile.text ≠ ['Z', 'O', 'W', 'E'] := by
      by_cases bare : parm.profile.length = 4
      · exact .inr (.inr ⟨bare, fun text => h ⟨examined, bare, text⟩⟩)
      · omega
    refine ⟨fun value _ same => validateGenresParmList_congr fun examined => ?_, fun accepted => ?_⟩
    · rcases short_or_longer examined with longer | short
      · exact supported_congr longer same
      · have short' : parm.profile.length < 4 ∨ parm.profile.length = 4 ∧
            (⟨parm.profile.length, value⟩ : CountedText).text ≠ ['Z', 'O', 'W', 'E'] :=
          short.imp_right fun h => ⟨h.1, fun text => h.2 (same.symm.trans text)⟩
        rw [unsupported_of_short short, unsupported_of_short short']
    · have examined := examined_of_ok accepted
      have supported : isProfileProductSupported parm.profile = true := by
        by_contra unsupported
        have := (validateGenresParmList_examined examined).mpr (Bool.eq_false_iff.mpr unsupported)
        rw [accepted] at this
        cases this
      rcases short_or_longer examined with longer | short
      · exact product_of_supported supported longer
      · rw [unsupported_of_short short] at supported
        cases supported

/-- A request for a profile in a field of its size. -/
def bareRequest (length : Nat) (front : Text) : GenresAdminParmList where
  eyecatcher := zisGenresAdminServiceParmlistEyecatcher
  flags := 0
  function := zisGenresAdminSrvFcDelete
  profile := ⟨length, front ++ List.replicate (zisSecurityProfileMaxLength - front.length) ' '⟩
  owner := ⟨0, []⟩
  user := ⟨0, []⟩
  accessType := 0
  output := ⟨0, 0, ⟨0, 0, 0⟩, ⟨0, []⟩, ⟨0, []⟩⟩

theorem profile_fence_sample :
    Fenced (bareRequest 6 ['Z', 'O', 'W', 'E', '.', 'A']) ↔
      ¬ (Examined (bareRequest 6 ['Z', 'O', 'W', 'E', '.', 'A']) ∧
        BareProduct (bareRequest 6 ['Z', 'O', 'W', 'E', '.', 'A']).profile) :=
  profile_fence _ (by decide +kernel)

/-- The bare name of the product is accepted where a period is behind it, and not where a blank
is. -/
theorem bare_product_accepted :
    validateGenresParmList (bareRequest 4 ['Z', 'O', 'W', 'E', '.']) = rcZisGsadmnsrvOk ∧
      validateGenresParmList (bareRequest 4 ['Z', 'O', 'W', 'E', ' ']) ≠ rcZisGsadmnsrvOk ∧
      (bareRequest 4 ['Z', 'O', 'W', 'E', '.']).profile.text =
        (bareRequest 4 ['Z', 'O', 'W', 'E', ' ']).profile.text ∧
      ¬ Fenced (bareRequest 4 ['Z', 'O', 'W', 'E', '.']) := by
  have accepted : validateGenresParmList (bareRequest 4 ['Z', 'O', 'W', 'E', '.']) =
      rcZisGsadmnsrvOk := by decide +kernel
  refine ⟨accepted, by decide +kernel, by decide +kernel, fun fenced => ?_⟩
  exact absurd (fenced.product accepted) (by decide +kernel)

end Zss.Tss
