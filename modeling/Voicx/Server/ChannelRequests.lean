import Voicx.Chat.Store
import Voicx.FileTransfer.UploadQuotas
import Voicx.Server.AssetGates
import Voicx.Server.ChannelEdit
import Voicx.Server.Moves

/-!
# Requests that act on a channel they name

Model of `handleDeleteChannel` (`internal/server/handlers.go`), `handleChannelIconSet`
(`internal/server/extras.go`), `handleChatPin` (`internal/server/chatx.go`) and
`handleFileTransferInit`, `handleFileList`, `handleFileDelete` (`internal/server/files.go`), with
the admission of an upload by the file-transfer server (`internal/filetransfer/server.go`). Together
with `handleChannelEdit` and `handleJoinChannel` these are the requests that name a channel as their
target and are decided by the caller's own permissions.

* `requireGranted` — the check that three of the handlers share.
* `initUpload`, `initDownload` — what the file-transfer server accepts, an upload as
  `FileTransfer.UploadEnv.initUpload` admits it, with the int64 sums of its quotas.
* `ChannelRequest`, `ChannelEnv` — a request and everything but the permission tables.
* `ChannelEnv.accepts` — accepted or refused, over given permission tables.

Source names without a file are from `internal/netproto/codec.go`.
-/

namespace Voicx.Server

open Found State Permissions Chat FileTransfer

/-- The right to delete channels. -/
def channelDelete : String := "b_channel_delete"

/-- The right to delete files. -/
def ftFileDelete : String := "b_ft_delete"

/-- The upload quota of a client, in MB. -/
def ftUploadQuotaMB : String := "i_ft_quota_mb_upload_per_client"

/-! ## One right, then the work -/

/-- The caller's checker, then one right. -/
def requireGranted {α : Type} (pc : Option PermChecker) (key : String)
    (work : Except ErrorReply α) : Except ErrorReply α :=
  match pc with
  | none => .error GateEnv.permsUnavailable
  | some pc =>
    if !pc.granted key then .error ⟨.permissionDenied, "insufficient permission: " ++ key⟩
    else work

/-- How the work on a channel fails: the channel is gone, or anything else. -/
inductive ChannelFailure
  | channelNotFound
  | failed
  deriving DecidableEq, Repr

/-- `outcome` is what `DeleteChannelSubtree` returns.
Source: `internal/server/handlers.go`, `handleDeleteChannel` -/
def handleDeleteChannel (pc : Option PermChecker) (outcome : Except ChannelFailure Unit) :
    Except ErrorReply Unit :=
  requireGranted pc channelDelete <|
    match outcome with
    | .error .channelNotFound => .error ⟨.notFound, "channel not found"⟩
    | .error .failed => .error ⟨.unavailable, "delete channel failed"⟩
    | .ok () => .ok ()

/-- Source: `ChannelIconSet` -/
structure ChannelIconSet where
  channelID : Int
  dataBase64 : String := ""
  copyFromChannelID : Int := 0
  deriving DecidableEq, Repr

/-- The image of an icon request: another channel's, or the data sent along. `iconOf` reads a stored
icon. -/
def iconImage (m : Manager) (p : AssetPlatform)
    (iconOf : Int → Option (List UInt8 × ImageFormat)) (msg : ChannelIconSet) :
    Except ErrorReply (List UInt8 × ImageFormat) :=
  if msg.copyFromChannelID ≠ 0 ∧ msg.dataBase64 = "" then
    match m.getChannel msg.copyFromChannelID with
    | none => .error ⟨.notFound, "source channel not found"⟩
    | some _ =>
      match iconOf msg.copyFromChannelID with
      | none => .error ⟨.notFound, "source channel has no icon"⟩
      | some image => .ok image
  else match decodeImage p msg.dataBase64 with
    | .error text => .error ⟨.malformed, text⟩
    | .ok image => .ok image

/-- `write` stores the image under the channel's lifecycle lock.
Source: `internal/server/extras.go`, `handleChannelIconSet` -/
def handleChannelIconSet (m : Manager) (p : AssetPlatform)
    (iconOf : Int → Option (List UInt8 × ImageFormat))
    (write : List UInt8 × ImageFormat → Except ChannelFailure Unit) (pc : Option PermChecker)
    (msg : ChannelIconSet) : Except ErrorReply Unit :=
  match m.getChannel msg.channelID with
  | none => .error ⟨.notFound, "channel not found"⟩
  | some _ =>
    requireGranted pc channelModify <|
      match iconImage m p iconOf msg with
      | .error e => .error e
      | .ok image =>
        match write image with
        | .error .channelNotFound => .error ⟨.notFound, "channel not found"⟩
        | .error .failed => .error ⟨.unavailable, "storing icon failed"⟩
        | .ok () => .ok ()

/-- Source: `ChatPin` -/
structure ChatPin where
  channelID : Int
  messageID : Int
  pinned : Bool
  deriving DecidableEq, Repr

/-- The pin or unpin itself. A pin names a live message of the channel. -/
def applyPin (st : ChatStore) (now : Int) (reads writes : Bool) (uniqueID : String) (msg : ChatPin) :
    Except ErrorReply ChatStore :=
  if msg.pinned then
    match (if reads then st.getChatMessage msg.messageID else none) with
    | none => .error ⟨.notFound, "message not found"⟩
    | some stored =>
      if stored.deletedAt.isSome then .error ⟨.notFound, "message not found"⟩
      else if stored.channelID ≠ msg.channelID then
        .error ⟨.malformed, "message is not in this channel"⟩
      else if !writes then .error ⟨.unavailable, "pin failed"⟩
      else .ok (st.pinChatMessage now msg.channelID msg.messageID uniqueID)
  else if !writes then .error ⟨.unavailable, "unpin failed"⟩
  else .ok (st.unpinChatMessage msg.channelID msg.messageID)

/-- Source: `internal/server/chatx.go`, `handleChatPin` -/
def handleChatPin (st : ChatStore) (now : Int) (reads writes : Bool) (uniqueID : String)
    (pc : Option PermChecker) (msg : ChatPin) : Except ErrorReply ChatStore :=
  requireGranted pc channelModify (applyPin st now reads writes uniqueID msg)

/-! ## Files -/

/-- Source: `internal/store/files.go`, `FileRecord` -/
structure FileRecord where
  name : String
  folder : String := ""
  size : Int := 0
  sha256 : String := ""
  uploader : String := ""
  encrypted : Bool := false
  uploadedAt : Int := 0
  deriving DecidableEq, Repr

/-- The file-transfer server: what an upload is admitted by, and its table of files, which may fail
to answer.
Source: `internal/filetransfer/server.go`, `Server` -/
structure FileBackend extends UploadEnv where
  getFile : Int → String → String → Except String FileRecord
  listFiles : Int → String → Option (List FileRecord)
  listFileFolders : Int → Option (List String)
  deleteFile : Int → String → String → Except String Unit

namespace FileBackend

variable (fb : FileBackend)

/-- The text of an error; `name` is the name or the folder that was not accepted. -/
def errorText (name : String) : UploadError → String
  | .invalidName => "filetransfer: invalid file name: " ++ name.quote
  | .tooLarge detail => "filetransfer: file too large: " ++ detail
  | .failed call => call
  | .quotaExceeded mb => "filetransfer: channel quota exceeded: " ++ toString mb ++ " MiB"
  | .uploaderQuotaExceeded mb => "filetransfer: upload quota exceeded: " ++ toString mb ++ " MiB"
  | .channelDeleted => "filetransfer: channel deleted"

/-- Source: `internal/filetransfer/server.go`, `InitUpload` -/
def initUpload (u : Upload) (quotaMB : Int64) : Except String (String × String) :=
  (fb.toUploadEnv.initUpload u quotaMB).mapError
    (errorText (if fb.sanitizeName u.name then u.folder else u.name))

/-- Source: `internal/filetransfer/server.go`, `InitDownload` -/
def initDownload (channelID : Int) (folder name : String) : Except String (String × String) :=
  if !fb.sanitizeName name then .error (errorText name .invalidName)
  else if !fb.sanitizeFolder folder then .error (errorText folder .invalidName)
  else match fb.getFile channelID folder name with
    | .error text => .error text
    | .ok _ => (fb.register (.ofInt channelID)).mapError (errorText name)

end FileBackend

/-- Source: `internal/server/files.go`, `uploadQuotaMB` -/
def PermChecker.uploadQuotaMB (pc : PermChecker) : Int64 :=
  if pc.admin then 0 else .ofInt (pc.power ftUploadQuotaMB)

/-- Source: `FileTransferInit` -/
structure FileTransferInit where
  channelID : Int
  direction : String
  name : String
  size : Int64 := 0
  folder : String := ""
  deriving DecidableEq, Repr

/-- The upload that a client asks for. -/
def FileTransferInit.upload (msg : FileTransferInit) (uniqueID : String) : Upload where
  channelID := .ofInt msg.channelID
  folder := msg.folder
  name := msg.name
  size := msg.size
  uploader := uniqueID

/-- Source: `FileList` -/
structure FileList where
  channelID : Int
  path : String := ""
  folder : String := ""
  deriving DecidableEq, Repr

/-- Source: `FileDelete` -/
structure FileDelete where
  channelID : Int
  folder : String := ""
  name : String
  deriving DecidableEq, Repr

/-- Source: `FileListResponse` -/
structure FileListResponse where
  entries : List FileRecord
  folders : List String
  usedBytes : Int64
  quotaBytes : Int64
  deriving DecidableEq, Repr

/-- What a backend answers, its error behind a label. -/
def answered {α : Type} (code : ErrCode) (label : String) (r : Except String α) :
    Except ErrorReply α :=
  r.mapError fun text => ⟨code, label ++ text⟩

section files

variable (fb : FileBackend) (uniqueID : String) (pc : Option PermChecker)

/-- Source: `internal/server/files.go`, `handleFileTransferInit` -/
def handleFileTransferInit (msg : FileTransferInit) : Except ErrorReply (String × String) :=
  match pc with
  | none => .error GateEnv.permsUnavailable
  | some pc =>
    if msg.direction = "upload" then
      if !pc.ftUploadAllowed then
        .error ⟨.permissionDenied, "insufficient permission: " ++ ftFileUploadPower⟩
      else answered .malformed "file transfer init failed: "
        (fb.initUpload (msg.upload uniqueID) pc.uploadQuotaMB)
    else if msg.direction = "download" then
      if !pc.ftDownloadAllowed then
        .error ⟨.permissionDenied, "insufficient permission: " ++ ftFileDownloadPower⟩
      else answered .malformed "file transfer init failed: "
        (fb.initDownload msg.channelID msg.folder msg.name)
    else .error ⟨.malformed, "direction must be upload or download"⟩

/-- The listing itself: the files of the folder, the folders, the channel's quota. -/
def fileListing (msg : FileList) : Except ErrorReply FileListResponse :=
  match fb.listFiles msg.channelID msg.folder with
  | none => .error ⟨.unavailable, "listing files failed"⟩
  | some entries =>
    match fb.listFileFolders msg.channelID with
    | none => .error ⟨.unavailable, "listing folders failed"⟩
    | some folders =>
      match fb.channelQuotaState (.ofInt msg.channelID) with
      | none => .error ⟨.unavailable, "reading quota failed"⟩
      | some q => .ok { entries, folders, usedBytes := q.used, quotaBytes := q.limit }

/-- Source: `internal/server/files.go`, `handleFileList` -/
def handleFileList (msg : FileList) : Except ErrorReply FileListResponse :=
  if msg.folder = "" ∧ msg.path ≠ "" ∧ msg.path ≠ "/" then
    .error ⟨.malformed, "legacy path field supports only empty or /"⟩
  else match pc with
    | none => .error GateEnv.permsUnavailable
    | some pc =>
      if !pc.ftDownloadAllowed then
        .error ⟨.permissionDenied, "insufficient permission: " ++ ftFileDownloadPower⟩
      else fileListing fb msg

/-- The refusal of a client that lacks the right: the uploader may manage its own file. -/
def ownerRefusal (channelID : Int) (folder name : String) : Option String :=
  match fb.listFiles channelID folder with
  | none => some "checking file owner failed"
  | some files =>
    match files.find? fun rec => rec.name == name with
    | none => some "file not found"
    | some rec =>
      if rec.uploader = uniqueID then none
      else some ("insufficient permission: only the uploader or " ++ ftFileDelete ++
        " holders may manage this file")

/-- Source: `internal/server/files.go`, `fileManageAllowed` -/
def fileManageAllowed (channelID : Int) (folder name : String) : Option String :=
  match pc with
  | none => some "permission backend unavailable"
  | some pc =>
    if pc.admin || pc.granted ftFileDelete then none
    else ownerRefusal fb uniqueID channelID folder name

/-- Source: `internal/server/files.go`, `handleFileDelete` -/
def handleFileDelete (msg : FileDelete) : Except ErrorReply Unit :=
  match fileManageAllowed fb uniqueID pc msg.channelID msg.folder msg.name with
  | some text => .error ⟨.permissionDenied, text⟩
  | none => answered .notFound "delete failed: " (fb.deleteFile msg.channelID msg.folder msg.name)

end files

/-! ## The requests together -/

inductive ChannelRequest
  | deleteChannel (channelID : Int)
  | channelEdit (msg : ChannelEdit)
  | channelIconSet (msg : ChannelIconSet)
  | chatPin (msg : ChatPin)
  | joinChannel (msg : JoinChannel)
  | fileTransferInit (msg : FileTransferInit)
  | fileList (msg : FileList)
  | fileDelete (msg : FileDelete)
  deriving DecidableEq, Repr

/-- Everything a request is decided by except the permission tables: the caller, the state, the
settings, and what the backends answer. -/
structure ChannelEnv where
  cfg : Config
  state : Manager
  sessions : FMap String Session
  clientID : String
  uniqueID : String := ""
  session : Session
  /-- the permission tables can be read -/
  loads : Bool := true
  deleteSubtree : Int → Except ChannelFailure Unit
  /-- the update of the channels table commits -/
  stored : Bool := true
  platform : AssetPlatform
  iconOf : Int → Option (List UInt8 × ImageFormat)
  writeIcon : Int → List UInt8 × ImageFormat → Except ChannelFailure Unit
  chat : ChatStore
  now : Int := 0
  chatReads : Bool := true
  chatWrites : Bool := true
  files : FileBackend

namespace ChannelEnv

variable (env : ChannelEnv) (db : PermDB)

/-- The world of the request, over the given tables. -/
def world : World where
  state := env.state
  sessions := env.sessions
  db := db

/-- The caller as the checker sees it: in the channel it stands in. -/
def caller : Caller where
  userID := env.session.userID
  isAdmin := env.session.isAdmin
  channelID := (env.state.chanOf env.clientID).getD 0

/-- The checker a handler gets. -/
def checker : Option PermChecker :=
  if env.loads then some (permCheckerFor env.cfg.guestGroupID db env.caller) else none

/-- Is the request accepted? -/
def accepts : ChannelRequest → Bool
  | .deleteChannel channelID =>
    (handleDeleteChannel (env.checker db) (env.deleteSubtree channelID)).isOk
  | .channelEdit msg => (handleChannelEdit env.state (env.checker db) env.stored msg).isOk
  | .channelIconSet msg =>
    (handleChannelIconSet env.state env.platform env.iconOf (env.writeIcon msg.channelID)
      (env.checker db) msg).isOk
  | .chatPin msg =>
    (handleChatPin env.chat env.now env.chatReads env.chatWrites env.uniqueID (env.checker db)
      msg).isOk
  | .joinChannel msg =>
    (handleJoinChannel env.cfg (env.world db) env.loads env.clientID env.session msg).isOk
  | .fileTransferInit msg =>
    (handleFileTransferInit env.files env.uniqueID (env.checker db) msg).isOk
  | .fileList msg => (handleFileList env.files (env.checker db) msg).isOk
  | .fileDelete msg => (handleFileDelete env.files env.uniqueID (env.checker db) msg).isOk

end ChannelEnv

end Voicx.Server
