import Voicx.Server.Assets
import Voicx.Server.Perms
import Voicx.Server.Reply

/-!
# The gates of the emoji and branding handlers

Model of `emoji_upload`, `emoji_delete`, `emoji_rename` (`internal/server/chatx.go`) and of
`server_icon_set`, `server_banner_set` (`internal/server/extras.go`).

`handleEmojiUpload` checks the right in its own body. `handleEmojiDelete` and `handleEmojiRename`
leave that to `emojiManageAllowed`, and `handleServerBannerSet` to `storeBranding`; both helpers
refuse by returning the result of writing the refusal, which is `nil` when it was written, so the
handler goes on.

* `GateRequest.authorized` — the caller's permissions were loaded and give it the right.
* `handleGate` — the five handlers.
* `Untouched` — no stored file changed and no event was broadcast.
* `GateHolds` — the condition under which a request without the right leaves everything untouched.
* **`denied_untouched_iff`** — it does so exactly under that condition.
* `refused_request_goes_on` — a delete, a rename and a banner that go through without the right.

Source names without a file are from `internal/server/extras.go`.
-/

namespace Voicx.Server

open Permissions

/-! ## Requests -/

/-- Source: `internal/netproto/codec.go`, `EmojiUpload`. -/
structure EmojiUpload where
  name : String
  dataBase64 : String
deriving DecidableEq, Repr

/-- Source: `internal/netproto/codec.go`, `EmojiDelete`. -/
structure EmojiDelete where
  name : String
deriving DecidableEq, Repr

/-- Source: `internal/netproto/codec.go`, `EmojiRename`. -/
structure EmojiRename where
  name : String
  newName : String
deriving DecidableEq, Repr

/-- The one field of `ServerIconSet` and of `ServerBannerSet` (`internal/netproto/codec.go`). -/
structure BrandingSet where
  dataBase64 : String
deriving DecidableEq, Repr

/-- A request; a payload that does not decode is the decoder's error text. -/
inductive GateRequest
  | emojiUpload (payload : Except String EmojiUpload)
  | emojiDelete (payload : Except String EmojiDelete)
  | emojiRename (payload : Except String EmojiRename)
  | serverIconSet (payload : Except String BrandingSet)
  | serverBannerSet (payload : Except String BrandingSet)

/-- The events of the handlers; `uploader` is the caller's unique id. -/
inductive AssetEvent
  | emojiAdded (name fileName uploader : String)
  | emojiRemoved (name uploader : String)
  | emojiRenamed (name newName fileName uploader : String)
  | serverBannerChanged (uploader : String)
deriving DecidableEq, Repr

/-- An audit entry: actor, action, target and detail. -/
structure AuditEntry where
  actor : String
  action : String
  target : String
  detail : String
deriving DecidableEq, Repr

/-- What a request runs under. -/
structure GateEnv where
  db : PermDB
  guestGroupID : Int := 0
  caller : Caller
  /-- `client.UniqueID` -/
  uniqueID : String := ""
  /-- `permCheckerFor` succeeds -/
  loaded : Bool := true
  /-- which error frames reach the client -/
  write : ErrorReply → Bool := fun _ => true
  /-- a broadcaster is wired -/
  broadcast : Bool := true
  platform : AssetPlatform
  faults : AssetFaults := {}
  /-- the faults during the rollback of a failed write -/
  rollback : AssetFaults := {}

/-- What a request changes. -/
structure GateWorld where
  files : AssetFiles
  events : List AssetEvent := []
  audits : List AuditEntry := []

/-! ## Helpers of the handlers -/

/-- `emojiNameRe`: 1 to 32 characters of `a-z`, `0-9`, `_` and `-`. -/
def emojiNameOK (name : String) : Bool :=
  decide (1 ≤ name.toList.length) && decide (name.toList.length ≤ 32) &&
    name.toList.all fun c =>
      decide ('a' ≤ c ∧ c ≤ 'z') || decide ('0' ≤ c ∧ c ≤ '9') || decide (c = '_') || decide (c = '-')

/-- `permissions.PermissionKeyEmojiManage`. -/
def permissionKeyEmojiManage : String := "b_emoji_manage"

/-- Source: `decodeImage`. -/
def decodeImage (p : AssetPlatform) (dataBase64 : String) :
    Except String (List UInt8 × ImageFormat) :=
  match p.decodeBase64 dataBase64 with
  | none => .error "invalid base64 data"
  | some raw =>
    if raw = [] then .error "empty image data"
    else if maxImageBytes < raw.length then .error "image too large (max 256 KiB)"
    else
      match p.inspect raw with
      | none => .error "unsupported image type (want png, jpeg, gif, or webp)"
      | some format => .ok (raw, format)

namespace GateEnv

variable (env : GateEnv)

/-- The caller's checker, if its permissions could be loaded. -/
def checker : Option PermChecker :=
  if env.loaded then some (permCheckerFor env.guestGroupID env.db env.caller) else none

variable (w : GateWorld)

/-- A handler that ends with an error reply. -/
def fail (code : ErrCode) (message : String) : GateWorld × Option WriteError :=
  (w, sent env.write ⟨code, message⟩)

/-- Source: `internal/server/handlers.go`, `broadcastEvent`. -/
def broadcastEvent (event : AssetEvent) : GateWorld :=
  if env.broadcast then { w with events := w.events ++ [event] } else w

/-- Source: `internal/server/groups.go`, `audit`. -/
def audit (action target detail : String) : GateWorld :=
  { w with audits := w.audits ++ [⟨env.uniqueID, action, target, detail⟩] }

/-- The reply to permissions that could not be loaded. -/
def permsUnavailable : ErrorReply := ⟨.unavailable, "permission backend unavailable"⟩

/-- The reply to a caller without the emoji right. -/
def emojiDenied : ErrorReply :=
  ⟨.permissionDenied, "insufficient permission: " ++ permissionKeyEmojiManage⟩

/-- The reply to a caller that is no admin. -/
def brandingDenied : ErrorReply :=
  ⟨.permissionDenied, "insufficient permission: server branding is admin-only"⟩

/-- `nil` stands for a caller with the right, and for a refusal that was written.
Source: `internal/server/chatx.go`, `emojiManageAllowed`. -/
def emojiManageAllowed : Option WriteError :=
  match env.checker with
  | none => sent env.write permsUnavailable
  | some pc =>
    if pc.granted permissionKeyEmojiManage then none else sent env.write emojiDenied

/-- Source: `storeBranding`. -/
def storeBranding (base dataBase64 action : String) : GateWorld × Option WriteError :=
  match env.checker with
  | none => (w, sent env.write permsUnavailable)
  | some pc =>
    if pc.admin then
      match decodeImage env.platform dataBase64 with
      | .error text => env.fail w .malformed text
      | .ok (raw, format) =>
        match writeImage env.platform env.faults w.files "" env.rollback base format raw with
        | (files, .error _) =>
          env.fail { w with files := files } .unavailable "branding write failed"
        | (files, .ok _) =>
          (env.audit { w with files := files } action "" format.extension, none)
    else (w, sent env.write brandingDenied)

/-! ## The handlers -/

/-- Source: `internal/server/chatx.go`, `handleEmojiUpload`. -/
def handleEmojiUpload :
    Except String EmojiUpload → GateWorld × Option WriteError
  | .error text => env.fail w .malformed ("malformed emoji_upload: " ++ text)
  | .ok msg =>
    match env.checker with
    | none => (w, sent env.write permsUnavailable)
    | some pc =>
      if pc.granted permissionKeyEmojiManage then
        if !emojiNameOK msg.name then
          env.fail w .malformed "invalid emoji name (1-32 of a-z 0-9 _ -)"
        else
          match decodeImage env.platform msg.dataBase64 with
          | .error text => env.fail w .malformed text
          | .ok (raw, format) =>
            match writeImage env.platform env.faults w.files "emojis" env.rollback msg.name
                format raw with
            | (files, .error _) =>
              env.fail { w with files := files } .unavailable "emoji write failed"
            | (files, .ok fileName) =>
              (env.broadcastEvent { w with files := files }
                (.emojiAdded msg.name fileName env.uniqueID), none)
      else (w, sent env.write emojiDenied)

/-- `handleEmojiDelete` after its gate. -/
def deleteEmoji (msg : EmojiDelete) : GateWorld × Option WriteError :=
  if !emojiNameOK msg.name then env.fail w .malformed "invalid emoji name"
  else
    match removeImage env.platform env.faults w.files "emojis" msg.name with
    | (files, .error .notExist) => env.fail { w with files := files } .notFound "emoji not found"
    | (files, .error _) =>
      env.fail { w with files := files } .unavailable "emoji delete failed"
    | (files, .ok _) =>
      (env.broadcastEvent (env.audit { w with files := files } "emoji_delete" msg.name "")
        (.emojiRemoved msg.name env.uniqueID), none)

/-- Source: `internal/server/chatx.go`, `handleEmojiDelete`. -/
def handleEmojiDelete :
    Except String EmojiDelete → GateWorld × Option WriteError
  | .error text => env.fail w .malformed ("malformed emoji_delete: " ++ text)
  | .ok msg =>
    match env.emojiManageAllowed with
    | some e => (w, some e)
    | none => env.deleteEmoji w msg

/-- `handleEmojiRename` after its gate. -/
def renameEmoji (msg : EmojiRename) : GateWorld × Option WriteError :=
  if !emojiNameOK msg.name || !emojiNameOK msg.newName then
    env.fail w .malformed "invalid emoji name (1-32 of a-z 0-9 _ -)"
  else if msg.name = msg.newName then env.fail w .malformed "new name is the same"
  else
    match renameImage env.platform env.faults w.files "emojis" msg.name msg.newName with
    | (files, .error .notExist) => env.fail { w with files := files } .notFound "emoji not found"
    | (files, .error .exist) =>
      env.fail { w with files := files } .malformed "an emoji with that name already exists"
    | (files, .error .failed) =>
      env.fail { w with files := files } .unavailable "emoji rename failed"
    | (files, .ok fileName) =>
      (env.broadcastEvent
        (env.audit { w with files := files } "emoji_rename" msg.name ("to " ++ msg.newName))
        (.emojiRenamed msg.name msg.newName fileName env.uniqueID), none)

/-- Source: `internal/server/chatx.go`, `handleEmojiRename`. -/
def handleEmojiRename :
    Except String EmojiRename → GateWorld × Option WriteError
  | .error text => env.fail w .malformed ("malformed emoji_rename: " ++ text)
  | .ok msg =>
    match env.emojiManageAllowed with
    | some e => (w, some e)
    | none => env.renameEmoji w msg

/-- Source: `handleServerIconSet`. -/
def handleServerIconSet :
    Except String BrandingSet → GateWorld × Option WriteError
  | .error text => env.fail w .malformed ("malformed server_icon_set: " ++ text)
  | .ok msg => env.storeBranding w "server_icon" msg.dataBase64 "server_icon_set"

/-- Source: `handleServerBannerSet`. -/
def handleServerBannerSet :
    Except String BrandingSet → GateWorld × Option WriteError
  | .error text => env.fail w .malformed ("malformed server_banner_set: " ++ text)
  | .ok msg =>
    match env.storeBranding w "server_banner" msg.dataBase64 "server_banner_set" with
    | (w, some e) => (w, some e)
    | (w, none) => (env.broadcastEvent w (.serverBannerChanged env.uniqueID), none)

/-- The five handlers. Source: `internal/server/tcp.go`, `dispatch`. -/
def handleGate : GateRequest → GateWorld × Option WriteError
  | .emojiUpload payload => env.handleEmojiUpload w payload
  | .emojiDelete payload => env.handleEmojiDelete w payload
  | .emojiRename payload => env.handleEmojiRename w payload
  | .serverIconSet payload => env.handleServerIconSet w payload
  | .serverBannerSet payload => env.handleServerBannerSet w payload

/-! ## What the gates promise -/

/-- The caller's permissions were loaded and give it the right that the request needs: the emoji
right, or server admin for the branding. -/
def authorized : GateRequest → Bool
  | .emojiUpload _ | .emojiDelete _ | .emojiRename _ =>
    env.checker.any fun pc => pc.granted permissionKeyEmojiManage
  | .serverIconSet _ | .serverBannerSet _ => env.checker.any fun pc => pc.admin

/-- No stored file changed and no event was broadcast. -/
def Untouched (r : GateWorld × Option WriteError) : Prop :=
  r.1.files = w.files ∧ r.1.events = w.events

instance (w : GateWorld) (r : GateWorld × Option WriteError) : Decidable (Untouched w r) :=
  inferInstanceAs (Decidable (r.1.files = w.files ∧ r.1.events = w.events))

/-- The refusal that a caller without the right gets. -/
def refusal (denied : ErrorReply) : ErrorReply := if env.loaded then denied else permsUnavailable

/-- When a request without the right leaves everything untouched: the upload and the icon always do,
and so does a payload that does not decode. The others do if the refusal cannot be written, or if
what they go on to do would come to nothing anyway. -/
def GateHolds : GateRequest → Prop
  | .emojiUpload _ => True
  | .serverIconSet _ => True
  | .emojiDelete (.error _) => True
  | .emojiDelete (.ok msg) =>
    env.write (env.refusal emojiDenied) = false ∨ emojiNameOK msg.name = false ∨
      ¬Removable env.platform env.faults w.files "emojis" msg.name
  | .emojiRename (.error _) => True
  | .emojiRename (.ok msg) =>
    env.write (env.refusal emojiDenied) = false ∨ emojiNameOK msg.name = false ∨
      emojiNameOK msg.newName = false ∨ msg.name = msg.newName ∨
      ¬Renamable env.platform env.faults w.files "emojis" msg.name msg.newName
  | .serverBannerSet (.error _) => True
  | .serverBannerSet (.ok _) =>
    env.write (env.refusal brandingDenied) = false ∨ env.broadcast = false

section proofs

variable {env} {w : GateWorld}

@[simp] lemma untouched_self (e : Option WriteError) : Untouched w (w, e) := ⟨rfl, rfl⟩

/-- A caller without a right has no checker, or one that denies it; the refusal says which. -/
lemma denied_cases {right : PermChecker → Bool} (h : env.checker.any right = false)
    (denied : ErrorReply) :
    env.checker = none ∧ env.refusal denied = permsUnavailable ∨
    ∃ pc, env.checker = some pc ∧ right pc = false ∧ env.refusal denied = denied := by
  unfold refusal
  unfold checker at h ⊢
  by_cases hloaded : env.loaded = true
  · rw [if_pos hloaded] at h ⊢
    rw [if_pos hloaded]
    exact .inr ⟨_, rfl, h, rfl⟩
  · rw [if_neg hloaded, if_neg hloaded]
    exact .inl ⟨rfl, rfl⟩

/-- Without the right, the emoji gate returns what became of its refusal. -/
lemma emojiManageAllowed_of_denied
    (h : (env.checker.any fun pc => pc.granted permissionKeyEmojiManage) = false) :
    env.emojiManageAllowed = sent env.write (env.refusal emojiDenied) := by
  unfold emojiManageAllowed
  rcases denied_cases h emojiDenied with ⟨hnone, hreply⟩ | ⟨pc, hpc, hright, hreply⟩
  · rw [hnone, hreply]
  · rw [hpc, hreply]
    simp [hright]

/-- Without the right, the branding store only sends its refusal. -/
lemma storeBranding_of_denied (h : (env.checker.any fun pc => pc.admin) = false)
    (base dataBase64 action : String) :
    env.storeBranding w base dataBase64 action =
      (w, sent env.write (env.refusal brandingDenied)) := by
  unfold storeBranding
  rcases denied_cases h brandingDenied with ⟨hnone, hreply⟩ | ⟨pc, hpc, hright, hreply⟩
  · rw [hnone, hreply]
  · rw [hpc, hreply]
    simp [hright]

lemma untouched_emojiUpload
    (h : (env.checker.any fun pc => pc.granted permissionKeyEmojiManage) = false)
    (payload : Except String EmojiUpload) : Untouched w (env.handleEmojiUpload w payload) := by
  unfold handleEmojiUpload
  split
  · exact untouched_self _
  split
  · exact untouched_self _
  · rename_i hpc
    rw [hpc, Option.any_some] at h
    rw [if_neg (by simp [h])]
    exact untouched_self _

@[simp] lemma broadcastEvent_files (w : GateWorld) (event : AssetEvent) :
    (env.broadcastEvent w event).files = w.files := by
  unfold broadcastEvent
  split_ifs <;> rfl

/-- A delete of a valid name leaves the files that the store leaves, whatever it reports. -/
lemma deleteEmoji_files {msg : EmojiDelete} (hname : emojiNameOK msg.name = true) :
    (env.deleteEmoji w msg).1.files =
      (removeImage env.platform env.faults w.files "emojis" msg.name).1 := by
  unfold deleteEmoji
  rw [if_neg (by simp [hname])]
  split <;> rename_i hres <;> simp [hres, fail, audit]

/-- What an emoji delete does once its gate said nothing. -/
lemma untouched_deleteEmoji_iff (msg : EmojiDelete) :
    Untouched w (env.deleteEmoji w msg) ↔
      emojiNameOK msg.name = false ∨
        ¬Removable env.platform env.faults w.files "emojis" msg.name := by
  by_cases hname : emojiNameOK msg.name = true
  · rw [hname]
    simp only [Bool.true_eq_false, false_or]
    constructor
    · intro huntouched hrem
      exact removeImage_of_removable hrem ((deleteEmoji_files hname).symm.trans huntouched.1)
    · intro hrem
      obtain ⟨e, he⟩ := removeImage_of_not_removable hrem
      unfold deleteEmoji
      rw [if_neg (by simp [hname]), he]
      cases e <;> exact untouched_self _
  · have hbad : emojiNameOK msg.name = false := by simpa using hname
    simp [deleteEmoji, hbad, fail]

/-- A rename between valid, different names leaves the files that the store leaves. -/
lemma renameEmoji_files {msg : EmojiRename} (hname : emojiNameOK msg.name = true)
    (hnew : emojiNameOK msg.newName = true) (hne : msg.name ≠ msg.newName) :
    (env.renameEmoji w msg).1.files =
      (renameImage env.platform env.faults w.files "emojis" msg.name msg.newName).1 := by
  unfold renameEmoji
  rw [if_neg (by simp [hname, hnew]), if_neg hne]
  split <;> rename_i hres <;> simp [hres, fail, audit]

/-- What an emoji rename does once its gate said nothing. -/
lemma untouched_renameEmoji_iff (msg : EmojiRename) :
    Untouched w (env.renameEmoji w msg) ↔
      emojiNameOK msg.name = false ∨ emojiNameOK msg.newName = false ∨
        msg.name = msg.newName ∨
        ¬Renamable env.platform env.faults w.files "emojis" msg.name msg.newName := by
  by_cases hname : emojiNameOK msg.name = true
  · by_cases hnew : emojiNameOK msg.newName = true
    · by_cases hne : msg.name = msg.newName
      · simp [renameEmoji, hnew, hne, fail]
      rw [hname, hnew]
      simp only [Bool.true_eq_false, hne, false_or]
      constructor
      · intro huntouched hren
        exact renameImage_of_renamable hren
          ((renameEmoji_files hname hnew hne).symm.trans huntouched.1)
      · intro hren
        obtain ⟨e, he⟩ := renameImage_of_not_renamable hren
        unfold renameEmoji
        rw [if_neg (by simp [hname, hnew]), if_neg hne, he]
        cases e <;> exact untouched_self _
    · have hbad : emojiNameOK msg.newName = false := by simpa using hnew
      simp [renameEmoji, hbad, fail]
  · have hbad : emojiNameOK msg.name = false := by simpa using hname
    simp [renameEmoji, hbad, fail]

/-- The handler behind the emoji gate, for a caller without the right: it stops if the refusal could
not be written and goes on if it was. -/
lemma untouched_gated_iff
    (h : (env.checker.any fun pc => pc.granted permissionKeyEmojiManage) = false)
    {next : GateWorld × Option WriteError} {stops : Prop} (hnext : Untouched w next ↔ stops) :
    Untouched w
        (match env.emojiManageAllowed with
          | some e => (w, some e)
          | none => next) ↔
      env.write (env.refusal emojiDenied) = false ∨ stops := by
  rw [emojiManageAllowed_of_denied h]
  by_cases hw : env.write (env.refusal emojiDenied) = true
  · rw [sent_eq_none.mpr hw, hw]
    simpa using hnext
  · have hfail : env.write (env.refusal emojiDenied) = false := by simpa using hw
    simp [sent, hfail]

lemma untouched_serverBannerSet_iff (h : (env.checker.any fun pc => pc.admin) = false)
    (msg : BrandingSet) :
    Untouched w (env.handleServerBannerSet w (.ok msg)) ↔
      env.write (env.refusal brandingDenied) = false ∨ env.broadcast = false := by
  unfold handleServerBannerSet
  simp only [storeBranding_of_denied h]
  by_cases hw : env.write (env.refusal brandingDenied) = true
  · rw [sent_eq_none.mpr hw, hw]
    cases hb : env.broadcast <;> simp [Untouched, broadcastEvent, hb]
  · have hfail : env.write (env.refusal brandingDenied) = false := by simpa using hw
    simp [sent, hfail]

end proofs

/-- **The gates, exactly.** A request of a caller without the right leaves every stored file and the
event stream untouched if and only if `GateHolds`. -/
theorem denied_untouched_iff (env : GateEnv) (w : GateWorld) (req : GateRequest)
    (h : env.authorized req = false) :
    Untouched w (env.handleGate w req) ↔ env.GateHolds w req := by
  cases req with
  | emojiUpload payload => exact iff_of_true (untouched_emojiUpload h payload) trivial
  | emojiDelete payload =>
    cases payload with
    | error text => exact iff_of_true (untouched_self _) trivial
    | ok msg => exact untouched_gated_iff h (untouched_deleteEmoji_iff msg)
  | emojiRename payload =>
    cases payload with
    | error text => exact iff_of_true (untouched_self _) trivial
    | ok msg => exact untouched_gated_iff h (untouched_renameEmoji_iff msg)
  | serverIconSet payload =>
    refine iff_of_true ?_ trivial
    cases payload with
    | error text => exact untouched_self _
    | ok msg =>
      show Untouched w (env.storeBranding w "server_icon" msg.dataBase64 "server_icon_set")
      rw [storeBranding_of_denied h]
      exact untouched_self _
  | serverBannerSet payload =>
    cases payload with
    | error text => exact iff_of_true (untouched_self _) trivial
    | ok msg => exact untouched_serverBannerSet_iff h msg

/-! ## Past a gate -/

/-- A registered user without any permission, on a platform where every image is a PNG. `write` says
which replies reach it. -/
def strangerEnv (write : ErrorReply → Bool) : GateEnv where
  db := ⟨PermRows.empty, fun _ => [], fun _ _ => [], fun _ => none⟩
  caller := { userID := 7 }
  uniqueID := "uid-stranger"
  write := write
  platform :=
    { isLocal := fun _ => true, inspect := fun _ => some .png, decodeBase64 := fun _ => some [1] }

/-- A store with one emoji. -/
def oneEmoji : GateWorld where
  files := (∅ : AssetFiles).insert ("emojis", "smile.png") (.regular [1])

/-- The emoji survives a delete without the right whose refusal cannot be written. -/
theorem denied_untouched_unwritten :
    (strangerEnv fun _ => false).authorized (.emojiDelete (.ok ⟨"smile"⟩)) = false ∧
    (Untouched oneEmoji
        ((strangerEnv fun _ => false).handleGate oneEmoji (.emojiDelete (.ok ⟨"smile"⟩))) ↔
      (strangerEnv fun _ => false).GateHolds oneEmoji (.emojiDelete (.ok ⟨"smile"⟩))) ∧
    (strangerEnv fun _ => false).GateHolds oneEmoji (.emojiDelete (.ok ⟨"smile"⟩)) :=
  ⟨by decide, denied_untouched_iff _ _ _ (by decide), .inl rfl⟩

/-- With the refusal written, a caller without the right deletes an emoji, renames one, and has a
change of the banner announced. -/
theorem refused_request_goes_on :
    ((strangerEnv fun _ => true).authorized (.emojiDelete (.ok ⟨"smile"⟩)) = false ∧
      ¬Untouched oneEmoji
        ((strangerEnv fun _ => true).handleGate oneEmoji (.emojiDelete (.ok ⟨"smile"⟩)))) ∧
    ((strangerEnv fun _ => true).authorized (.emojiRename (.ok ⟨"smile", "frown"⟩)) = false ∧
      ¬Untouched oneEmoji
        ((strangerEnv fun _ => true).handleGate oneEmoji (.emojiRename (.ok ⟨"smile", "frown"⟩)))) ∧
    ((strangerEnv fun _ => true).authorized (.serverBannerSet (.ok ⟨""⟩)) = false ∧
      ¬Untouched oneEmoji
        ((strangerEnv fun _ => true).handleGate oneEmoji (.serverBannerSet (.ok ⟨""⟩)))) := by
  decide

end GateEnv

end Voicx.Server
