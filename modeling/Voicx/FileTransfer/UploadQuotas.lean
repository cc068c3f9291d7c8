import Mathlib.Tactic

/-!
# Upload quotas

`InitUpload` issues a token for an upload after it has checked the declared size against the size
cap, the channel's quota and the uploader's. Sizes are int64, and ceilings are in MiB.

* `initUpload` — the checks in the order of the source.
* `initUpload_exact_iff` — when an issued token keeps within the limits **over the integers**.

Source names without a file are from `internal/filetransfer/server.go`.
-/

namespace Voicx.FileTransfer

open Int64

/-- Source: `Quota` -/
structure Quota where
  used : Int64 := 0
  limit : Int64 := 0

/-- Source: `Quota.Exceeded` -/
def Quota.exceeded (q : Quota) (size : Int64) : Bool := 0 < q.limit && q.limit < q.used + size

/-- `mb << 20`, which multiplies in 64 bits. -/
def mebibytes (mb : Int64) : Int64 := mb * 1048576

/-- Source: `quotaFor` -/
def quotaFor (used limitMB : Int64) : Quota :=
  if limitMB ≤ 0 then { used } else { used, limit := mebibytes limitMB }

/-- Source: the errors of `InitUpload` -/
inductive UploadError
  | invalidName
  | tooLarge (detail : String)
  | failed (call : String)
  | quotaExceeded (mb : Int64)
  | uploaderQuotaExceeded (mb : Int64)
  | channelDeleted
  deriving DecidableEq

/-- The settings, what the store answers (`none` if a query fails), which names and folders are
accepted, the random id and token and the deleted channels. -/
structure UploadEnv where
  maxSizeMB : Int64
  channelQuotaMB : Int64
  channelFileUsage : Int64 → Option Int64
  uploaderFileUsage : String → Option Int64
  sanitizeName : String → Bool
  sanitizeFolder : String → Bool
  randomHex : Option (String × String)
  deleted : Int64 → Bool

structure Upload where
  channelID : Int64
  folder : String
  name : String
  size : Int64
  uploader : String

namespace UploadEnv

variable (env : UploadEnv)

/-- Source: `ChannelQuotaState` -/
def channelQuotaState (channelID : Int64) : Option Quota :=
  (env.channelFileUsage channelID).map fun used => quotaFor used env.channelQuotaMB

/-- Source: `UploaderQuotaState` -/
def uploaderQuotaState (uploader : String) (limitMB : Int64) : Option Quota :=
  if limitMB ≤ 0 ∨ uploader = "" then some {}
  else (env.uploaderFileUsage uploader).map fun used => quotaFor used limitMB

/-- One axis of the quota; it is looked at if its ceiling is positive. -/
def checkQuota (limitMB : Int64) (state : Option Quota) (size : Int64) (call : String)
    (e : UploadError) : Except UploadError Unit :=
  if 0 < limitMB then
    match state with
    | none => .error (.failed call)
    | some q => if q.exceeded size then .error e else .ok ()
  else .ok ()

/-- Source: `register` -/
def register (channelID : Int64) : Except UploadError (String × String) :=
  match env.randomHex with
  | none => .error (.failed "random")
  | some issued => if env.deleted channelID then .error .channelDeleted else .ok issued

def checkChannelQuota (u : Upload) : Except UploadError Unit :=
  checkQuota env.channelQuotaMB (env.channelQuotaState u.channelID) u.size
    "checking channel quota" (.quotaExceeded env.channelQuotaMB)

def checkUploaderQuota (u : Upload) (uploaderQuotaMB : Int64) : Except UploadError Unit :=
  checkQuota uploaderQuotaMB (env.uploaderQuotaState u.uploader uploaderQuotaMB) u.size
    "checking upload quota" (.uploaderQuotaExceeded uploaderQuotaMB)

/-- Source: `InitUpload` -/
def initUpload (u : Upload) (uploaderQuotaMB : Int64) : Except UploadError (String × String) :=
  if !env.sanitizeName u.name || !env.sanitizeFolder u.folder then .error .invalidName
  else if u.size ≤ 0 then .error (.tooLarge "size must be positive")
  else if 0 < env.maxSizeMB ∧ mebibytes env.maxSizeMB < u.size then
    .error (.tooLarge (toString u.size ++ " bytes exceeds the " ++ toString env.maxSizeMB ++
      " MiB limit"))
  else do
    env.checkChannelQuota u
    env.checkUploaderQuota u uploaderQuotaMB
    env.register u.channelID

end UploadEnv

/-! ## The checks over the integers -/

/-- A positive ceiling is kept, over the integers. -/
def Within (used : Int) (size limitMB : Int64) : Prop :=
  0 < limitMB → used + size.toInt ≤ limitMB.toInt * 1048576

/-- The sum is looked at and does not overflow. If it does, only a ceiling of at least 2^63 bytes
can cover it. -/
def Fits (checked : Prop) (used : Int) (size limitMB : Int64) : Prop :=
  0 < limitMB → checked ∧ used + size.toInt < 2 ^ 63 ∨
    (checked → 2 ^ 43 ≤ limitMB.toInt) ∧ used + size.toInt ≤ limitMB.toInt * 1048576

lemma toInt_mebibytes {mb : Int64} (h : 0 < mb) (hlt : mb.toInt < 2 ^ 43) :
    (mebibytes mb).toInt = mb.toInt * 1048576 := by
  rw [lt_iff_toInt_lt, toInt_zero] at h
  rw [mebibytes, toInt_mul]
  exact Int.bmod_eq_of_le (by simp; omega) (by simp; omega)

/-- What a ceiling of 1 MiB lets through every ceiling lets through: a positive limit in bytes is at
least 1 MiB, also where the shift has overflowed. -/
lemma Quota.exceeded_of_one {used size : Int64} (h : (quotaFor used 1).exceeded size = false)
    (mb : Int64) : (quotaFor used mb).exceeded size = false := by
  have hmebi : (1048576 : Int64).toInt = 1048576 := rfl
  have hone : (used + size).toInt ≤ 1048576 := by
    rw [← hmebi, ← le_iff_toInt_le]
    simpa [quotaFor, exceeded, mebibytes] using h
  have hmb : 0 < (mebibytes mb).toInt → 1048576 ≤ (mebibytes mb).toInt := by
    rw [mebibytes, toInt_mul, Int.bmod_def, hmebi]
    omega
  unfold quotaFor
  split_ifs
  · simp [exceeded]
  · simp only [exceeded, Bool.and_eq_false_iff, decide_eq_false_iff_not, lt_iff_toInt_lt,
      toInt_zero]
    omega

/-- A size that passes the cap is within it. -/
lemma within_maxSize {mb size : Int64} (h : ¬(0 < mb ∧ mebibytes mb < size)) :
    Within 0 size mb := by
  intro hpos
  have hsize := size.toInt_lt
  by_cases hlt : mb.toInt < 2 ^ 43
  · have hle := le_iff_toInt_le.mp (Int64.not_lt.mp fun hcap => h ⟨hpos, hcap⟩)
    rw [toInt_mebibytes hpos hlt] at hle
    omega
  · omega

/-- What it means that a positive quota is not exceeded. -/
lemma within_iff_fits {used size mb : Int64} (hsize : 0 < size)
    (h : 0 < mb → (quotaFor used mb).exceeded size = false) :
    Within used.toInt size mb ↔ Fits True used.toInt size mb := by
  refine forall_congr' fun hpos => ?_
  rw [lt_iff_toInt_lt, toInt_zero] at hsize
  have hused := used.le_toInt
  constructor
  · intro hle
    by_cases hsum : used.toInt + size.toInt < 2 ^ 63
    · exact Or.inl ⟨trivial, hsum⟩
    · exact Or.inr ⟨fun _ => by omega, hle⟩
  rintro (⟨-, hsum⟩ | ⟨-, hle⟩)
  · by_cases hlt : mb.toInt < 2 ^ 43
    · -- both sides of the comparison are what they are over the integers
      have hlimit := toInt_mebibytes hpos hlt
      have hadd : (used + size).toInt = used.toInt + size.toInt := by
        rw [toInt_add]
        exact Int.bmod_eq_of_le (by simp; omega) (by simp; omega)
      have hquota : quotaFor used mb = { used, limit := mebibytes mb } :=
        if_neg (Int64.not_le.mpr hpos)
      have hkept := h hpos
      rw [lt_iff_toInt_lt, toInt_zero] at hpos
      simp only [hquota, Quota.exceeded, Bool.and_eq_false_iff, decide_eq_false_iff_not,
        lt_iff_toInt_lt, toInt_zero, hlimit, hadd] at hkept
      omega
    · omega
  · exact hle

namespace UploadEnv

lemma checkQuota_ok {mb size : Int64} {q : Quota} {call : String} {e : UploadError}
    (h : checkQuota mb (some q) size call e = .ok ()) (hpos : 0 < mb) :
    q.exceeded size = false := by
  simp only [checkQuota, if_pos hpos] at h
  split_ifs at h with hq
  exact Bool.eq_false_iff.mpr hq

variable {env : UploadEnv} {u : Upload} {quotaMB : Int64} {issued : String × String}

/-- What a quota of 1 MiB lets through every quota of an uploader lets through. -/
lemma checkUploaderQuota_of_one (h : (env.checkUploaderQuota u 1).isOk = true) (mb : Int64) :
    (env.checkUploaderQuota u mb).isOk = true := by
  unfold checkUploaderQuota uploaderQuotaState checkQuota at h ⊢
  rw [if_pos (by decide)] at h
  split_ifs with _ hnone
  · rfl
  · rw [if_neg fun hone => hnone (.inr (hone.resolve_left (by decide)))] at h
    cases husage : env.uploaderFileUsage u.uploader with
    | none =>
      rw [husage] at h
      cases h
    | some used =>
      have hfits : (quotaFor used 1).exceeded u.size = false := by
        by_contra hnot
        rw [husage, Option.map_some] at h
        simp [hnot, Except.isOk, Except.toBool] at h
      rw [Option.map_some]
      simp [Quota.exceeded_of_one hfits, Except.isOk, Except.toBool]
  · rfl

/-- The checks that an issued token has passed. -/
lemma initUpload_ok (h : env.initUpload u quotaMB = .ok issued) :
    0 < u.size ∧ ¬(0 < env.maxSizeMB ∧ mebibytes env.maxSizeMB < u.size) ∧
      env.checkChannelQuota u = .ok () ∧ env.checkUploaderQuota u quotaMB = .ok () := by
  unfold initUpload at h
  split_ifs at h with _ hsize hcap
  refine ⟨Int64.not_le.mp hsize, hcap, ?_⟩
  cases hchannel : env.checkChannelQuota u with
  | error e =>
    rw [hchannel] at h
    cases h
  | ok _ =>
    cases huploader : env.checkUploaderQuota u quotaMB with
    | error e =>
      rw [hchannel, huploader] at h
      cases h
    | ok _ => exact ⟨rfl, rfl⟩

/-- **A token is issued within the limits, over the integers,** exactly if no sum of used bytes and
size that the checks depend on overflows; the quota of an upload without an uploader is not looked
at. -/
theorem initUpload_exact_iff (h : env.initUpload u quotaMB = .ok issued) :
    (0 < u.size ∧ Within 0 u.size env.maxSizeMB ∧
      (∀ used ∈ env.channelFileUsage u.channelID, Within used.toInt u.size env.channelQuotaMB) ∧
      ∀ used ∈ env.uploaderFileUsage u.uploader, Within used.toInt u.size quotaMB) ↔
    (∀ used ∈ env.channelFileUsage u.channelID,
        Fits True used.toInt u.size env.channelQuotaMB) ∧
      ∀ used ∈ env.uploaderFileUsage u.uploader,
        Fits (u.uploader ≠ "") used.toInt u.size quotaMB := by
  obtain ⟨hsize, hcap, hchannel, huploader⟩ := initUpload_ok h
  have hfits : ∀ used ∈ env.channelFileUsage u.channelID,
      (Within used.toInt u.size env.channelQuotaMB ↔
        Fits True used.toInt u.size env.channelQuotaMB) := by
    intro used hused
    rw [checkChannelQuota, channelQuotaState, hused] at hchannel
    exact within_iff_fits hsize (checkQuota_ok hchannel)
  have hfits' : ∀ used ∈ env.uploaderFileUsage u.uploader,
      (Within used.toInt u.size quotaMB ↔
        Fits (u.uploader ≠ "") used.toInt u.size quotaMB) := by
    intro used hused
    by_cases hname : u.uploader = ""
    · simp [Within, Fits, hname]
    · have hchecked : (u.uploader ≠ "") = True := eq_true hname
      rw [hchecked]
      refine within_iff_fits hsize fun hpos => ?_
      rw [checkUploaderQuota, uploaderQuotaState, hused, if_neg (by simp [hname, hpos])] at huploader
      exact checkQuota_ok huploader hpos
  simp only [hsize, within_maxSize hcap, true_and]
  exact and_congr (forall₂_congr hfits) (forall₂_congr hfits')

/-- A channel with a quota of 1 MiB and one byte in it. -/
def smallChannel : UploadEnv where
  maxSizeMB := 0
  channelQuotaMB := 1
  channelFileUsage _ := some 1
  uploaderFileUsage _ := some 0
  sanitizeName _ := true
  sanitizeFolder _ := true
  randomHex := some ("id", "token")
  deleted _ := false

theorem initUpload_exact_iff_one_byte :
    Within 1 1 1 ∧ smallChannel.initUpload ⟨7, "", "a", 1, "u"⟩ 0 = .ok ("id", "token") :=
  have h : smallChannel.initUpload ⟨7, "", "a", 1, "u"⟩ 0 = .ok ("id", "token") := by decide +kernel
  ⟨((initUpload_exact_iff h).mpr
    ⟨by rintro _ ⟨⟩; intro; decide, by rintro _ ⟨⟩; intro; decide⟩).2.2.1 1 rfl, h⟩

/-- A declared size of 2^63 - 1 bytes passes the quota of 1 MiB. -/
theorem huge_size_passes :
    smallChannel.initUpload ⟨7, "", "a", 9223372036854775807, "u"⟩ 0 = .ok ("id", "token") ∧
      ¬(1 + (9223372036854775807 : Int64).toInt ≤ smallChannel.channelQuotaMB.toInt * 1048576) := by
  decide +kernel

end UploadEnv

end Voicx.FileTransfer
