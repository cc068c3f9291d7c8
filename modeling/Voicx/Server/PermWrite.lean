import Voicx.Server.Perms

/-!
# The permission write path

Model of the `perm_set`, `perm_unset`, `perm_copy` and `perm_template_apply` handlers of
`internal/server/groups.go`. All four check `b_permission_manage`, resolve the target, take
`permWriteMu`, cap what they are about to write *and* what it replaces against the caller's own
grant, and then write; the lock makes a request one step.

* `permTarget`, `permCopyTarget` — how a request addresses a target.
* `grantCapOk`, `grantCapOkWrite` — the cap.
* `handlePermSet`, `handlePermUnset`, `handlePermCopy`, `handlePermTemplateApply` — the handlers,
  from the rows before to a `Response`. `Faults` says which database calls fail and in which order a
  template is ranged over.
* `permTemplates` — the four built-in bundles.

What happens after a successful write (the audit row, the cache invalidation, the notification) does
not touch the permission tables and is left out here.

Source names without a file are from `internal/server/groups.go`.
-/

namespace Voicx.Server

open Found Permissions

/-! ## Requests and responses -/

/-- Source: `internal/netproto/codec.go`, `PermSet` -/
structure PermSet where
  tier : String
  groupID : Int := 0
  uniqueID : String := ""
  channelID : Int := 0
  key : String
  value : Int
  grant : Int := 0
  skip : Bool := false
  negate : Bool := false
  deriving DecidableEq, Repr

/-- Source: `internal/netproto/codec.go`, `PermUnset` -/
structure PermUnset where
  tier : String
  groupID : Int := 0
  uniqueID : String := ""
  channelID : Int := 0
  key : String
  deriving DecidableEq, Repr

/-- Source: `internal/netproto/codec.go`, `PermCopy` -/
structure PermCopy where
  fromKind : String
  fromID : String
  toKind : String
  toID : String
  channelID : Int := 0
  replace : Bool := false
  deriving DecidableEq, Repr

/-- Source: `internal/netproto/codec.go`, `PermTemplateApply` -/
structure PermTemplateApply where
  template : String
  tier : String
  groupID : Int := 0
  uniqueID : String := ""
  deriving DecidableEq, Repr

/-- A request of the write path. -/
inductive PermRequest
  | set (msg : PermSet)
  | unset (msg : PermUnset)
  | copy (msg : PermCopy)
  | templateApply (msg : PermTemplateApply)
  deriving DecidableEq, Repr

/-- The error replies by code. `errCodePermissionDenied` is used for two different refusals, kept
apart here: the missing right and the exceeded cap. -/
inductive PermError
  | malformed (message : String)
  | unavailable (message : String)
  | insufficient (message : String)
  | capExceeded (message : String)
  deriving DecidableEq, Repr

/-- The rows after a request, the rows it wrote, overwrote or removed, and the reply. -/
structure Response where
  rows : PermRows
  touched : List PermRow
  result : Except PermError Unit

/-- A refusal before the first write. -/
def refuse (rs : PermRows) (e : PermError) : Response := ⟨rs, [], .error e⟩

/-- A write that went through, or failed with the given message (the database's own text follows it
in the source). -/
def respond (w : WriteResult) (message : String) : Response :=
  ⟨w.rows, w.touched, if w.ok then .ok () else .error (.unavailable message)⟩

/-- An order in which a loop visits the entries of a Go map: a map is ranged over in any order, and
in another one the next time. -/
structure EntryOrder where
  order : List PermEntry → List PermEntry
  perm : ∀ es, (order es).Perm es

/-- The order in which the entries are written down here. -/
def EntryOrder.listed : EntryOrder := ⟨id, fun _ => .refl _⟩

/-- Which database calls of a request fail, and how its loops over maps go. -/
structure Faults where
  /-- loading the caller's permissions succeeds -/
  load : Bool := true
  /-- `ListPermissions` succeeds -/
  list : Bool := true
  /-- how `SetPermission` ends, by key -/
  set : String → WriteOutcome := fun _ => .ok
  /-- `UnsetPermission` succeeds -/
  unset : Bool := true
  /-- the transaction of `CopyPermissions` commits -/
  copy : Bool := true
  /-- the loop that checks the entries of a template -/
  checkOrder : EntryOrder := .listed
  /-- the loop that writes them -/
  writeOrder : EntryOrder := .listed
  /-- the loop of a copy over the entries of its destination -/
  replaceOrder : EntryOrder := .listed

/-! ## Targets -/

section targets

-- `LookupUser`: the id of the user with a unique id
variable (lookupUser : String → Option Int)

/-- Source: `permTarget` -/
def permTarget (tier uniqueID : String) (groupID channelID : Int) :
    Except String (PermTier × PermTarget) :=
  match PermTier.ofString tier with
  | some .serverGroup =>
    if groupID = 0 then .error "group_id is required for group tiers"
    else .ok (.serverGroup, { groupID })
  | some .channelGroup =>
    if groupID = 0 then .error "group_id is required for group tiers"
    else .ok (.channelGroup, { groupID })
  | some .client =>
    if uniqueID = "" then .error "unique_id is required for the client tier"
    else match lookupUser uniqueID with
      | none => .error "target user not found"
      | some userID => .ok (.client, { userID })
  | some .channelClient =>
    if uniqueID = "" ∨ channelID = 0 then
      .error "unique_id and channel_id are required for the channel_client tier"
    else match lookupUser uniqueID with
      | none => .error "target user not found"
      | some userID => .ok (.channelClient, { userID, channelID })
  | some .channel =>
    if channelID = 0 then .error "channel_id is required for the channel tier"
    else .ok (.channel, { channelID })
  | none =>
    .error ("unknown tier " ++ tier.quote ++
      " (want server_group|client|channel_client|channel|channel_group)")

/-- Base-10 digits after an optional sign, within 64 bits.
Source: `strconv.ParseInt(id, 10, 64)` -/
def parseInt (s : String) : Option Int :=
  let (neg, digits) := match s.toList with
    | '-' :: ds => (true, ds)
    | '+' :: ds => (false, ds)
    | ds => (false, ds)
  if digits ≠ [] ∧ digits.all Char.isDigit then
    let n : Nat := digits.foldl (fun n d => 10 * n + (d.toNat - '0'.toNat)) 0
    let i : Int := if neg then -n else n
    if -2 ^ 63 ≤ i ∧ i < 2 ^ 63 then some i else none
  else none

/-- Source: `permCopyTarget` -/
def permCopyTarget (kind id : String) (channelID : Int) : Except String (PermTier × PermTarget) :=
  if kind = "servergroup" ∨ kind = "channelgroup" then
    match parseInt id with
    | none => .error (kind ++ " id must be a group id")
    | some groupID =>
      if groupID = 0 then .error (kind ++ " id must be a group id")
      else if kind = "channelgroup" then .ok (.channelGroup, { groupID })
      else .ok (.serverGroup, { groupID })
  else if kind = "client" then
    if id = "" then .error "client id must be a unique id"
    else match lookupUser id with
      | none => .error ("user " ++ id.quote ++ " not found")
      | some userID =>
        if channelID ≠ 0 then .ok (.channelClient, { userID, channelID })
        else .ok (.client, { userID })
  else .error ("unknown kind " ++ kind.quote ++ " (want servergroup|channelgroup|client)")

end targets

/-! ## The cap -/

/-- A caller that is neither admin nor exempt may only write up to its own grant for the key.
Source: `grantCapOk` -/
def grantCapOk (pc : PermChecker) (key : String) (value grant : Int) : Bool :=
  if pc.admin || pc.granted permissionModifyPowerIgnore then true
  else match pc.own key with
    | none => false
    | some own => decide (own.grant ≥ value) && decide (own.grant ≥ grant)

/-- Listed entries indexed by key. -/
def indexByKey (entries : List PermEntry) : FMap String PermEntry :=
  entries.foldl (fun out e => out.insert e.key e) ∅

/-- The target's entries by key; admins skip the lookup.
Source: `currentPerms` -/
def currentPerms (rs : PermRows) (pc : PermChecker) (loc : PermLoc) (f : Faults) :
    Option (FMap String PermEntry) :=
  if pc.admin then some ∅
  else if f.list then some (indexByKey (listPermissions rs loc)) else none

/-- Cap a write against what it writes and against the entry it replaces or removes.
Source: `grantCapOkWrite` -/
def grantCapOkWrite (pc : PermChecker) (current : FMap String PermEntry) (key : String)
    (value grant : Int) : Bool :=
  if !grantCapOk pc key value grant then false
  else match current.lookup key with
    | some e => grantCapOk pc key e.value e.grant
    | none => true

/-! ## The handlers -/

/-- The checks all four handlers start with. -/
def gated (rs : PermRows) (pc : Option PermChecker) (body : PermChecker → Response) : Response :=
  match pc with
  | none => refuse rs (.unavailable "permission backend unavailable")
  | some pc =>
    if !pc.granted permissionManage then
      refuse rs (.insufficient ("insufficient permission: " ++ permissionManage))
    else body pc

section handlers

variable (lookupUser : String → Option Int) (rs : PermRows) (pc : Option PermChecker) (f : Faults)

/-- What `handlePermSet` and `handlePermUnset` have in common: the target is resolved, the write is
capped against its value and grant and against the stored entry, and then `write` runs. -/
def cappedWrite (address : Except String (PermTier × PermTarget)) (key : String) (value grant : Int)
    (exceeded : String) (write : PermLoc → Response) : Response :=
  gated rs pc fun pc =>
    match address with
    | .error e => refuse rs (.malformed e)
    | .ok (tier, target) =>
      match currentPerms rs pc (tier.loc target) f with
      | none => refuse rs (.unavailable "perm lookup failed")
      | some current =>
        if !grantCapOkWrite pc current key value grant then refuse rs (.capExceeded exceeded)
        else write (tier.loc target)

/-- Source: `handlePermSet` -/
def handlePermSet (msg : PermSet) : Response :=
  cappedWrite rs pc f (permTarget lookupUser msg.tier msg.uniqueID msg.groupID msg.channelID)
    msg.key msg.value msg.grant
    "grant cap exceeded: you may only set values <= your own grant for this key" fun loc =>
      respond (setPermission rs loc ⟨msg.key, msg.value, msg.grant, msg.skip, msg.negate⟩
        (f.set msg.key)) "perm set failed"

/-- Removing is a write: it is capped against the entry being deleted.
Source: `handlePermUnset` -/
def handlePermUnset (msg : PermUnset) : Response :=
  cappedWrite rs pc f (permTarget lookupUser msg.tier msg.uniqueID msg.groupID msg.channelID)
    msg.key 0 0
    "grant cap exceeded: you may only unset entries within your own grant for this key" fun loc =>
      respond (unsetPermission rs loc msg.key f.unset) "perm unset failed"

/-- The destination entries a copy with `replace` clears: those whose key it does not copy. -/
def clearedEntries (replace : Bool) (src dst : List PermEntry) : List PermEntry :=
  if replace then dst.filter fun e => !(src.map PermEntry.key).contains e.key else []

/-- Every source entry is capped like a direct write, and with `replace` every destination entry
that would be cleared is capped too, all before the transaction. Where several entries exceed the
cap the message names the first one the loop visits. Source: `doPermCopyLocked` -/
def doPermCopyLocked (pc : PermChecker) (source dest : PermLoc) (replace : Bool) : Response :=
  if !f.list then refuse rs (.unavailable "perm lookup failed")
  else
    let src := listPermissions rs source
    let dst := listPermissions rs dest
    let current := indexByKey dst
    match src.find? fun e => !grantCapOkWrite pc current e.key e.value e.grant with
    | some e =>
      refuse rs (.capExceeded ("grant cap exceeded: " ++ e.key ++ " is outside your own grant"))
    | none =>
      let cleared := clearedEntries replace src (f.replaceOrder.order dst)
      match cleared.find? fun e => !grantCapOk pc e.key e.value e.grant with
      | some e =>
        refuse rs (.capExceeded ("grant cap exceeded: replacing would clear " ++ e.key ++
          ", which is outside your own grant"))
      | none =>
        respond (copyPermissions rs dest (cleared.map PermEntry.key) src f.copy)
          "perm copy failed"

/-- Source: `handlePermCopy` -/
def handlePermCopy (msg : PermCopy) : Response :=
  gated rs pc fun pc =>
    match permCopyTarget lookupUser msg.fromKind msg.fromID msg.channelID with
    | .error e => refuse rs (.malformed ("source: " ++ e))
    | .ok (fromTier, fromTarget) =>
      match permCopyTarget lookupUser msg.toKind msg.toID msg.channelID with
      | .error e => refuse rs (.malformed ("destination: " ++ e))
      | .ok (toTier, toTarget) =>
        if fromTier = toTier ∧ fromTarget = toTarget then
          refuse rs (.malformed "source and destination are the same target")
        else
          doPermCopyLocked rs f pc (fromTier.loc fromTarget) (toTier.loc toTarget) msg.replace

end handlers

/-! ## Templates -/

/-- An entry of a bundle: value 1, grant 0 unless said otherwise. -/
def plain (key : String) (value : Int := 1) (grant : Int := 0) : PermEntry := { key, value, grant }

/-- The four built-in bundles. An entry's skip flag is always written false.
Source: `permTemplates` -/
def permTemplates : String → Option (List PermEntry)
  | "guest" => some
      [{ key := "i_ft_file_upload_power", negate := true },
       { key := "b_client_avatar_upload", negate := true }]
  | "member" => some [plain "b_client_poke", plain "b_channel_create_temporary"]
  | "moderator" => some
      [plain "b_client_poke", plain "b_channel_create_temporary", plain "b_chat_delete_any",
       plain "b_chat_mention_all", plain "b_chat_slowmode_bypass", plain "b_chat_filter_manage",
       plain "b_channel_modify", plain "b_channel_delete", plain "b_client_priority_speaker",
       plain "b_ft_delete", plain "b_client_ban", plain "i_client_ban_power" 50,
       plain "i_client_kick_from_channel_power" 50, plain "i_client_kick_from_server_power" 50,
       plain "i_client_move_power" 50]
  | "admin" => some
      [plain "b_client_poke" 1 1, plain "b_channel_create_temporary" 1 1,
       plain "b_channel_create_semi_permanent" 1 1, plain "b_channel_create_permanent" 1 1,
       plain "b_chat_delete_any" 1 1, plain "b_chat_mention_all" 1 1,
       plain "b_chat_slowmode_bypass" 1 1, plain "b_chat_filter_manage" 1 1,
       plain "b_channel_modify" 1 1, plain "b_channel_delete" 1 1,
       plain "b_client_priority_speaker" 1 1, plain "b_ft_delete" 1 1, plain "b_client_ban" 1 1,
       plain "i_client_ban_power" 75 75, plain "i_client_kick_from_channel_power" 75 75,
       plain "i_client_kick_from_server_power" 75 75, plain "i_client_move_power" 75 75,
       plain "b_client_remoteaddress_view" 1 1, plain "b_virtualserver_recording" 1 1,
       plain "b_emoji_manage" 1 1, plain "b_permission_manage" 1 1,
       plain "b_permission_modify_power_ignore" 1 1, plain "b_server_group_manage" 1 1,
       plain "b_channel_group_manage" 1 1, plain "b_audit_view" 1 1]
  | _ => none

/-- The write loop of a template: the first failing write ends it, the writes before it stay. -/
def applyTemplate (rs : PermRows) (loc : PermLoc) (f : Faults) : List PermEntry → WriteResult
  | [] => ⟨rs, [], true⟩
  | e :: es =>
    let w := setPermission rs loc e (f.set e.key)
    if w.ok then
      let rest := applyTemplate w.rows loc f es
      { rest with touched := w.touched ++ rest.touched }
    else w

variable (lookupUser : String → Option Int)

/-- A template is a batch of `perm_set` writes: every key is capped before the first write.
Source: `handlePermTemplateApply` -/
def handlePermTemplateApply (rs : PermRows) (pc : Option PermChecker) (f : Faults)
    (msg : PermTemplateApply) : Response :=
  match permTemplates msg.template with
  | none => refuse rs (.malformed "unknown template (want guest|member|moderator|admin)")
  | some tmpl =>
    gated rs pc fun pc =>
      match permTarget lookupUser msg.tier msg.uniqueID msg.groupID 0 with
      | .error e => refuse rs (.malformed e)
      | .ok (tier, target) =>
        if tier ≠ .serverGroup ∧ tier ≠ .client then
          refuse rs (.malformed "templates apply to server_group or client tiers")
        else match currentPerms rs pc (tier.loc target) f with
          | none => refuse rs (.unavailable "perm lookup failed")
          | some current =>
            match (f.checkOrder.order tmpl).find?
                fun e => !grantCapOkWrite pc current e.key e.value e.grant with
            | some e =>
              refuse rs (.capExceeded ("grant cap exceeded: the template's " ++ e.key ++
                " is outside your own grant"))
            | none =>
              respond (applyTemplate rs (tier.loc target) f (f.writeOrder.order tmpl))
                "template apply failed"

/-- One request of the write path. -/
def handlePerm (rs : PermRows) (pc : Option PermChecker) (f : Faults) : PermRequest → Response
  | .set msg => handlePermSet lookupUser rs pc f msg
  | .unset msg => handlePermUnset lookupUser rs pc f msg
  | .copy msg => handlePermCopy lookupUser rs pc f msg
  | .templateApply msg => handlePermTemplateApply lookupUser rs pc f msg

end Voicx.Server
