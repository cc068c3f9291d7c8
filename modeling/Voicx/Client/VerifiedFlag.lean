import Mathlib.Tactic

/-!
# What the frontend takes for a verified chat message

The client reads an event with Go's decoder, which ignores the letter case of a key and reports a
value of the wrong type. The frontend reads what it is handed with its own decoder, which does
neither, and draws a shield where `enc_verified` is truthy.

* `Json` — a value as it stands in the text: an object keeps its members in order, with duplicates.
* `encVerified`, `chatText` — the frontend's reading of an event.
* `maybeDecryptEvent` — the client: what it hands over for a payload, now or from a goroutine later.
* **`verified_honest_iff`** — whatever keys the client has and however the goroutines are scheduled,
  an event that the frontend takes for verified is one whose body the client has opened, *if and
  only if* the frontend does not take the payload itself for verified or the client does not pass
  it on as it is.

Source names without a file are from `client/e2e.go`.
-/

namespace Voicx.Client

/-- A JSON value as it stands in the text; a number is its literal.
Fidelity: nested to any depth, where `encoding/json` refuses more than 10000 levels -/
inductive Json
  | null
  | bool (b : Bool)
  | num (literal : String)
  | str (s : String)
  | arr (items : List Json)
  | obj (fields : List (String × Json))

/-- What the client calls and the repository does not contain, and the two ways to open a body.
Source: `openScope`, `openDM` -/
structure Lib (Key : Type) where
  /-- `encoding/json`: equal for two keys that differ in letter case only -/
  foldName : String → String
  /-- `strconv.ParseInt` in base 10, where it succeeds -/
  parseInt : String → Option ℤ
  /-- the number that `strconv.ParseInt` returns, its error ignored -/
  int64 : String → ℤ
  /-- `strconv.ParseUint` in base 10 with the given number of bits -/
  parseUint : ℕ → String → Option ℕ
  trimSpace : String → String
  /-- `fmt.Sscan` of an integer, 0 where it fails -/
  sscan : String → ℤ
  /-- JavaScript: the number with this literal is not 0 -/
  truthyNumber : String → Bool
  openScope : String → Key → Option String
  openDM : String → Key → Key → Option String

variable {Key : Type} (L : Lib Key)

/-! ## The frontend -/

/-- A member of an object as JavaScript reads it: the exact key, the last of several. -/
def jsGet (fields : List (String × Json)) (key : String) : Option Json :=
  ((fields.filter (·.1 == key)).getLast?).map Prod.snd

def truthy : Json → Bool
  | .null => false
  | .bool b => b
  | .num literal => L.truthyNumber literal
  | .str s => s != ""
  | .arr _ => true
  | .obj _ => true

/-- The data of a chat event; data that is no object has no members.
Source: `client/frontend/src/main.js`, the handler of `event` -/
def chatData (event : Json) : Option (List (String × Json)) :=
  match event with
  | .obj fields =>
    match jsGet fields "type", jsGet fields "data" with
    | some (.str "chat"), some (.obj d) => some d
    | some (.str "chat"), _ => some []
    | _, _ => none
  | _ => none

/-- The frontend takes the event for a verified chat message.
Source: `client/frontend/src/chat-ui.js`, `normalize` -/
def encVerified (event : Json) : Bool :=
  ((chatData event).bind (jsGet · "enc_verified")).elim false (truthy L)

/-- The `??` operator. -/
def orElse : Option Json → Option Json → Option Json
  | none, other => other
  | some .null, other => other
  | some v, _ => some v

/-- The text that the frontend shows.
Source: `client/frontend/src/chat-ui.js`, `normalize` -/
def chatText (event : Json) : Option Json :=
  (chatData event).bind fun d => orElse (orElse (jsGet d "text") (jsGet d "body")) (some (.str ""))

/-! ## Go's decoder -/

/-- The field that a key of an object is stored in: the exact name, or a name that differs in letter
case only. -/
def fieldOf (names : List String) (key : String) : Option String :=
  if key ∈ names then some key else names.find? fun name => L.foldName name == L.foldName key

/-- A value for a string field that holds `old`: `null` leaves it, another type is an error. -/
def Json.asString (old : String) : Json → Option String
  | .str s => some s
  | .null => some old
  | _ => none

def Json.asBool (old : Bool) : Json → Option Bool
  | .bool b => some b
  | .null => some old
  | _ => none

def Json.asInt (old : ℤ) : Json → Option ℤ
  | .num literal => L.parseInt literal
  | .null => some old
  | _ => none

def Json.asUint (bits old : ℕ) : Json → Option ℕ
  | .num literal => L.parseUint bits literal
  | .null => some old
  | _ => none

def Json.asStrings : Json → Option (List String)
  | .arr items => items.mapM (Json.asString "")
  | .null => some []
  | _ => none

/-- Source: `internal/netproto/codec.go`, `ChatBroadcast` -/
structure ChatBroadcast where
  channelID : String := ""
  direct : Bool := false
  toUniqueID : String := ""
  encVerified : Bool := false
  fromClientID : String := ""
  fromUniqueID : String := ""
  sender : String := ""
  text : String := ""
  offline : Bool := false
  enc : Bool := false
  keyID : ℕ := 0
  e2e : Bool := false
  id : ℤ := 0
  replyToID : ℤ := 0
  version : ℕ := 0
  mentions : List String := []
  clientMsgID : String := ""

/-- The names of the fields. -/
def chatFields : List String :=
  ["channel_id", "direct", "to_unique_id", "enc_verified", "from_client_id", "from_unique_id",
    "from", "text", "offline", "enc", "key_id", "e2e", "id", "reply_to_id", "version", "mentions",
    "client_msg_id"]

variable (chat : ChatBroadcast)

/-- Store one member of an object. -/
def ChatBroadcast.set (v : Json) : String → Option ChatBroadcast
  | "channel_id" => (v.asString chat.channelID).map ({ chat with channelID := · })
  | "direct" => (v.asBool chat.direct).map ({ chat with direct := · })
  | "to_unique_id" => (v.asString chat.toUniqueID).map ({ chat with toUniqueID := · })
  | "enc_verified" => (v.asBool chat.encVerified).map ({ chat with encVerified := · })
  | "from_client_id" => (v.asString chat.fromClientID).map ({ chat with fromClientID := · })
  | "from_unique_id" => (v.asString chat.fromUniqueID).map ({ chat with fromUniqueID := · })
  | "from" => (v.asString chat.sender).map ({ chat with sender := · })
  | "text" => (v.asString chat.text).map ({ chat with text := · })
  | "offline" => (v.asBool chat.offline).map ({ chat with offline := · })
  | "enc" => (v.asBool chat.enc).map ({ chat with enc := · })
  | "key_id" => (v.asUint L 32 chat.keyID).map ({ chat with keyID := · })
  | "e2e" => (v.asBool chat.e2e).map ({ chat with e2e := · })
  | "id" => (v.asInt L chat.id).map ({ chat with id := · })
  | "reply_to_id" => (v.asInt L chat.replyToID).map ({ chat with replyToID := · })
  | "version" => (v.asUint L 64 chat.version).map ({ chat with version := · })
  | "mentions" => v.asStrings.map ({ chat with mentions := · })
  | "client_msg_id" => (v.asString chat.clientMsgID).map ({ chat with clientMsgID := · })
  | _ => some chat

/-- `json.Unmarshal` into a chat broadcast. An error in any member is an error of the whole. -/
def decodeChat : Json → Option ChatBroadcast
  | .null => some {}
  | .obj fields => fields.foldlM (fun chat m =>
      ((fieldOf L chatFields m.1).elim (some chat) (chat.set L m.2))) {}
  | _ => none

/-- `json.Unmarshal` into the envelope: the type, and the data if there is a member for it. -/
def decodeEnvelope (payload : List (String × Json)) : Option (String × Option Json) :=
  payload.foldlM (fun env m =>
    match fieldOf L ["type", "data"] m.1 with
    | some "type" => (m.2.asString env.1).map (·, env.2)
    | some "data" => some (env.1, some m.2)
    | _ => some env) ("", none)

/-! ## The client -/

/-- A table of members as an object; a member without a value is left out. -/
def members (table : List (String × Option Json)) : List (String × Json) :=
  table.filterMap fun m => m.2.map (m.1, ·)

/-- A value that is left out where it is empty. -/
def omitIf (empty : Bool) (v : Json) : Option Json := if empty then none else some v

/-- The members of an encoded chat broadcast. -/
def ChatBroadcast.table : List (String × Option Json) :=
  [("channel_id", omitIf (chat.channelID == "") (.str chat.channelID)),
    ("direct", omitIf (!chat.direct) (.bool chat.direct)),
    ("to_unique_id", omitIf (chat.toUniqueID == "") (.str chat.toUniqueID)),
    ("enc_verified", omitIf (!chat.encVerified) (.bool chat.encVerified)),
    ("from_client_id", omitIf (chat.fromClientID == "") (.str chat.fromClientID)),
    ("from_unique_id", omitIf (chat.fromUniqueID == "") (.str chat.fromUniqueID)),
    ("from", some (.str chat.sender)), ("text", some (.str chat.text)),
    ("offline", omitIf (!chat.offline) (.bool chat.offline)),
    ("enc", omitIf (!chat.enc) (.bool chat.enc)),
    ("key_id", omitIf (chat.keyID == 0) (.num (toString chat.keyID))),
    ("e2e", omitIf (!chat.e2e) (.bool chat.e2e)),
    ("id", omitIf (chat.id == 0) (.num (toString chat.id))),
    ("reply_to_id", omitIf (chat.replyToID == 0) (.num (toString chat.replyToID))),
    ("version", omitIf (chat.version == 0) (.num (toString chat.version))),
    ("mentions", omitIf chat.mentions.isEmpty (.arr (chat.mentions.map .str))),
    ("client_msg_id", omitIf (chat.clientMsgID == "") (.str chat.clientMsgID))]

/-- The envelope that `rewrapChat` and `finishEventField` encode. -/
def envelope (envType : String) (data : List (String × Json)) : Json :=
  .obj [("data", .obj data), ("type", .str envType)]

/-- Source: `rewrapChat` (encoding a broadcast cannot fail) -/
def rewrapChat : Json := envelope "chat" (members chat.table)

/-- Source: `presentChat` -/
def presentChat : ChatBroadcast :=
  { chat with enc := false, e2e := false, keyID := 0 }

def missingKeyText : String := "[encrypted message — key unavailable]"
def refusedKeyText : String := "[encrypted message — you do not have access]"
def decryptFailedText : String := "[encrypted message — decryption failed]"

/-- What a decryption reads of the client.
Source: `scopeKeys`, `peerPubKey`, `identity` -/
structure Keys (Key : Type) where
  isRefused : ℤ → ℕ → Bool := fun _ _ => false
  scopeKey : ℤ → ℕ → Option Key := fun _ _ => none
  /-- the private key, unless the identity is missing -/
  priv : Option Key := none
  uniqueID : String := ""
  peerPubKey : String → Option Key := fun _ => none

/-- What becomes of the goroutines: the keys at the time of the decryption, or `none` where no
worker or no place in the queue was free.
Source: `startDecrypt`, `startScopeDecrypt` -/
structure Schedule (Key : Type) where
  dm : Option (Keys Key) := none
  scope : Option (Keys Key) := none

/-- A text for the body, and the plaintext if it was opened. -/
structure Body where
  text : String
  opened : Option String := none

/-- An event handed to the frontend, and the plaintext of its body if the client has opened it. -/
structure Emission where
  event : Json
  opened : Option String := none

variable (keys : Keys Key)

/-- Source: `resolveScopeText` -/
def resolveScopeText (scope : ℤ) (keyID : ℕ) (blob : String) : Option Body :=
  if keys.isRefused scope keyID then some ⟨refusedKeyText, none⟩
  else (keys.scopeKey scope keyID).map fun key =>
    match L.openScope blob key with
    | none => ⟨decryptFailedText, none⟩
    | some plain => ⟨plain, some plain⟩

variable (sch : Schedule Key)

/-- The text of a sealed body: at once, or from a goroutine after the key was pulled.
Source: `decryptChatEvent`, `startScopeDecrypt`, `scopeTextAfterFetch` -/
def scopeBody (scope : ℤ) (keyID : ℕ) (blob : String) : Body :=
  ((resolveScopeText L keys scope keyID blob).or
    (sch.scope.bind (resolveScopeText L · scope keyID blob))).getD ⟨missingKeyText, none⟩

/-- Source: `scopeOf` -/
def scopeOf (chat : ChatBroadcast) : ℤ := if chat.channelID = "" then 0 else L.sscan chat.channelID

/-- Source: `decryptDMAsync` -/
def decryptDMAsync (chat : ChatBroadcast) : Option Emission :=
  keys.priv.map fun priv =>
    let peerUID := if chat.fromUniqueID = keys.uniqueID then chat.toUniqueID else chat.fromUniqueID
    let peer := if peerUID ≠ "" then keys.peerPubKey peerUID else none
    match peer.bind (L.openDM chat.text · priv) with
    | none => ⟨rewrapChat (presentChat { chat with text := missingKeyText }), none⟩
    | some plain =>
      ⟨rewrapChat (presentChat { chat with text := plain, encVerified := true }), some plain⟩

/-- Source: `decryptChatEvent` -/
def decryptChatEvent (data : Option Json) (payload : Json) : Option Emission :=
  match data.bind (decodeChat L) with
  | none => some ⟨payload, none⟩
  | some wire =>
    let chat := { wire with encVerified := false }
    if !chat.enc then
      if wire.encVerified || chat.e2e then
        some ⟨rewrapChat (presentChat { chat with direct := chat.direct || chat.e2e }), none⟩
      else some ⟨payload, none⟩
    else if chat.direct || chat.e2e || chat.keyID == 0 then
      let chat := { chat with direct := true }
      match sch.dm with
      | none => some ⟨rewrapChat (presentChat { chat with text := missingKeyText }), none⟩
      | some later => decryptDMAsync L later chat
    else
      let body := scopeBody L keys sch (scopeOf L chat) chat.keyID chat.text
      some ⟨rewrapChat (presentChat { chat with text := body.text }), body.opened⟩

/-- The members of a raw event object. Source: `decodeEventObject` -/
def decodeEventObject : Option Json → Option (List (String × Json))
  | some (.obj fields) => some fields
  | some .null => some []
  | _ => none

/-- Source: `jsonInt64` (numbers are kept as literals) -/
def jsonInt64 : Option Json → ℤ
  | some (.num literal) => L.int64 literal
  | some (.str s) => L.int64 s
  | _ => 0

/-- Source: `jsonUint32` -/
def jsonUint32 (v : Option Json) : Option ℕ :=
  (match v with
    | some (.num literal) => L.parseUint 32 literal
    | some (.str s) => L.parseUint 32 (L.trimSpace s)
    | _ => none).filter (· ≠ 0)

/-- Source: `finishEventField` -/
def finishEventField (envType field : String) (obj : List (String × Json)) (text : String) : Json :=
  envelope envType (obj.filter (fun m => m.1 ∉ [field, "enc", "key_id", "body_enc", "keys"]) ++
    [(field, .str text)])

/-- The member `enc` of a raw event object is `true`. -/
def sealedObject (obj : List (String × Json)) : Bool :=
  match jsGet obj "enc" with
  | some (.bool enc) => enc
  | _ => false

/-- Source: `decryptEventField` -/
def decryptEventField (envType field : String) (data : Option Json) (payload : Json) : Emission :=
  match decodeEventObject data with
  | none => ⟨payload, none⟩
  | some obj =>
    if !sealedObject obj then ⟨payload, none⟩
    else
      let blob := match jsGet obj field with
        | some (.str s) => s
        | _ => ""
      match jsonUint32 L (jsGet obj "key_id") with
      | none => ⟨finishEventField envType field obj decryptFailedText, none⟩
      | some keyID =>
        let body := scopeBody L keys sch (jsonInt64 L (jsGet obj "channel_id")) keyID blob
        ⟨finishEventField envType field obj body.text, body.opened⟩

/-- What the client hands to the frontend for a payload, at once or later; `none` if nothing.
Source: `maybeDecryptEvent`; `client/conn.go`, `dispatchAccepted` -/
def maybeDecryptEvent (keys : Keys Key) (sch : Schedule Key) (payload : List (String × Json)) :
    Option Emission :=
  match decodeEnvelope L payload with
  | none => some ⟨.obj payload, none⟩
  | some ("chat", data) => decryptChatEvent L keys sch data (.obj payload)
  | some ("chat_edited", data) =>
    some (decryptEventField L keys sch "chat_edited" "body" data (.obj payload))
  | some ("announcement", data) =>
    some (decryptEventField L keys sch "announcement" "text" data (.obj payload))
  | some _ => some ⟨.obj payload, none⟩

/-! ## The frontend's reading of what the client encodes -/

variable {table : List (String × Option Json)} {key : String} {chat : ChatBroadcast}
  {sch : Schedule Key}

lemma filter_members_of_notMem (h : key ∉ table.map Prod.fst) :
    (members table).filter (·.1 == key) = [] := by
  rw [List.filter_eq_nil_iff]
  intro m hm heq
  obtain ⟨⟨name, v⟩, hmem, hv⟩ := List.mem_filterMap.mp hm
  obtain ⟨w, -, rfl⟩ := Option.map_eq_some_iff.mp hv
  exact h (List.mem_map.mpr ⟨_, hmem, by simpa using heq⟩)

/-- A member of a table with distinct names reads back as it was written. -/
lemma jsGet_members {v : Option Json} (hnodup : (table.map Prod.fst).Nodup)
    (hmem : (key, v) ∈ table) : jsGet (members table) key = v := by
  have hfilter : (members table).filter (·.1 == key) = (v.map (key, ·)).toList := by
    induction table with
    | nil => cases hmem
    | cons m table ih =>
      obtain ⟨hnot, hrest⟩ := List.nodup_cons.mp hnodup
      obtain rfl | hlater := List.mem_cons.mp hmem
      · have hnone := filter_members_of_notMem hnot
        cases v with
        | none => exact hnone
        | some w => simpa [members] using hnone
      · have hne : m.1 ≠ key := by
          rintro rfl
          exact hnot (List.mem_map.mpr ⟨_, hlater, rfl⟩)
        rw [← ih hrest hlater]
        cases hv : m.2 with
        | none => simp [members, hv]
        | some w => simp [members, hv, hne]
  rw [jsGet, hfilter]
  cases v <;> rfl

lemma ChatBroadcast.nodup_table (chat : ChatBroadcast) : (chat.table.map Prod.fst).Nodup :=
  show chatFields.Nodup by decide

lemma chatData_rewrapChat (chat : ChatBroadcast) :
    chatData (rewrapChat chat) = some (members chat.table) := rfl

lemma encVerified_rewrapChat (chat : ChatBroadcast) :
    encVerified L (rewrapChat chat) = chat.encVerified := by
  have hmem : ("enc_verified", omitIf (!chat.encVerified) (.bool chat.encVerified)) ∈
      chat.table := by simp [ChatBroadcast.table]
  rw [encVerified, chatData_rewrapChat, Option.bind_some, jsGet_members chat.nodup_table hmem]
  cases h : chat.encVerified <;> rfl

lemma chatText_rewrapChat (chat : ChatBroadcast) :
    chatText (rewrapChat chat) = some (.str chat.text) := by
  have hmem : ("text", some (.str chat.text)) ∈ chat.table := by simp [ChatBroadcast.table]
  rw [chatText, chatData_rewrapChat, Option.bind_some, jsGet_members chat.nodup_table hmem]
  rfl

/-! ## The main result -/

/-- If the frontend takes the event for verified, the client has opened its body and the text is the
plaintext. -/
def Emission.Honest (e : Emission) : Prop :=
  encVerified L e.event = true →
    ∃ plain, e.opened = some plain ∧ chatText e.event = some (.str plain)

/-- The client passes the payload on as it is: Go reports an error in the envelope or in the chat
data, or reads another type, or reads no flag that makes it look at the body. -/
def passedOn (payload : List (String × Json)) : Bool :=
  match decodeEnvelope L payload with
  | some ("chat", data) =>
    (data.bind (decodeChat L)).elim true fun chat => !(chat.enc || chat.encVerified || chat.e2e)
  | some ("chat_edited", data) => !(decodeEventObject data).elim false sealedObject
  | some ("announcement", data) => !(decodeEventObject data).elim false sealedObject
  | _ => true

/-- An event that the client encodes without the flag. -/
lemma honest_rewrapChat (h : chat.encVerified = false) (opened : Option String) :
    Emission.Honest L ⟨rewrapChat (presentChat chat), opened⟩ := by
  intro hverified
  rw [encVerified_rewrapChat] at hverified
  exact absurd (h.symm.trans hverified) Bool.false_ne_true

variable {keys : Keys Key} {e : Emission}

/-- The flag is set for a direct message that was opened. -/
lemma honest_decryptDMAsync (hchat : chat.encVerified = false)
    (h : decryptDMAsync L keys chat = some e) : e.Honest L := by
  obtain ⟨priv, -, rfl⟩ := Option.map_eq_some_iff.mp h
  dsimp only
  split
  · have hmissing : { chat with text := missingKeyText }.encVerified = false := hchat
    exact honest_rewrapChat L hmissing _
  · exact fun _ => ⟨_, rfl, chatText_rewrapChat _⟩

lemma decryptChatEvent_cases {data : Option Json} {payload : Json}
    (h : decryptChatEvent L keys sch data payload = some e) :
    (((data.bind (decodeChat L)).elim true fun chat =>
      !(chat.enc || chat.encVerified || chat.e2e)) = true ∧ e = ⟨payload, none⟩) ∨
      e.Honest L := by
  unfold decryptChatEvent at h
  cases hdata : data.bind (decodeChat L) with
  | none =>
    rw [hdata] at h
    exact .inl ⟨rfl, (Option.some.inj h).symm⟩
  | some wire =>
    simp only [hdata] at h
    split at h
    next henc =>
      split at h
      next =>
        rw [← Option.some.inj h]
        exact .inr (honest_rewrapChat L rfl _)
      next hflags =>
        exact .inl ⟨by simp_all, (Option.some.inj h).symm⟩
    next =>
      right
      split at h
      next =>
        split at h
        next =>
          rw [← Option.some.inj h]
          exact honest_rewrapChat L rfl _
        next => exact honest_decryptDMAsync L (by rfl) h
      next =>
        rw [← Option.some.inj h]
        exact honest_rewrapChat L rfl _

/-- Events of another type are not read as chat messages. -/
lemma decryptEventField_cases (keys : Keys Key) (sch : Schedule Key) {envType : String}
    (hne : envType ≠ "chat") (field : String) (data : Option Json) (payload : Json) :
    let e := decryptEventField L keys sch envType field data payload
    ((!(decodeEventObject data).elim false sealedObject) = true ∧ e = ⟨payload, none⟩) ∨
      e.Honest L := by
  have hother : ∀ fields opened, Emission.Honest L ⟨envelope envType fields, opened⟩ := by
    intro fields opened hverified
    have hnone : chatData (envelope envType fields) = none := by
      simp [chatData, envelope, jsGet, hne]
    rw [encVerified, hnone] at hverified
    cases hverified
  intro e
  cases hobj : decodeEventObject data with
  | none => exact .inl ⟨rfl, by simp [e, decryptEventField, hobj]⟩
  | some obj =>
    cases hsealed : sealedObject obj with
    | false => exact .inl ⟨by simp [hsealed], by simp [e, decryptEventField, hobj, hsealed]⟩
    | true =>
      right
      simp only [e, decryptEventField, hobj, hsealed, Bool.not_true, Bool.false_eq_true, if_false]
      cases jsonUint32 L (jsGet obj "key_id") with
      | none | some keyID => exact hother _ _

/-- An emission is the payload as it is, where the client passes it on, or it is honest. -/
lemma maybeDecryptEvent_cases {payload : List (String × Json)}
    (h : maybeDecryptEvent L keys sch payload = some e) :
    (passedOn L payload = true ∧ e = ⟨.obj payload, none⟩) ∨ e.Honest L := by
  unfold maybeDecryptEvent at h
  unfold passedOn
  split at h
  next henv => exact .inl ⟨by rw [henv], (Option.some.inj h).symm⟩
  next data henv =>
    rw [henv]
    exact decryptChatEvent_cases L h
  next data henv =>
    rw [henv, ← Option.some.inj h]
    exact decryptEventField_cases L keys sch (by decide) "body" data _
  next data henv =>
    rw [henv, ← Option.some.inj h]
    exact decryptEventField_cases L keys sch (by decide) "text" data _
  next env hchat hedited hannounced henv =>
    refine .inl ⟨?_, (Option.some.inj h).symm⟩
    rw [henv]
    split <;> simp_all

/-- A payload that is passed on reaches the frontend, whatever the client knows. -/
lemma maybeDecryptEvent_of_passedOn {payload : List (String × Json)}
    (h : passedOn L payload = true) (keys : Keys Key) (sch : Schedule Key) :
    maybeDecryptEvent L keys sch payload = some ⟨.obj payload, none⟩ := by
  unfold passedOn at h
  unfold maybeDecryptEvent
  split at h
  next data henv =>
    simp only [henv, decryptChatEvent]
    cases hdata : data.bind (decodeChat L) with
    | none => rfl
    | some wire => simp_all
  next data henv =>
    simp only [henv, decryptEventField]
    cases hobj : decodeEventObject data <;> simp_all
  next data henv =>
    simp only [henv, decryptEventField]
    cases hobj : decodeEventObject data <;> simp_all
  next hchat hedited hannounced =>
    split <;> simp_all

/-- **An event that the frontend takes for a verified chat message is one whose body the client has
opened, with the opened text, for whatever keys the client has and however its goroutines are
scheduled, if and only if the payload is not both taken for verified by the frontend and passed on
by the client.** -/
theorem verified_honest_iff (payload : List (String × Json)) :
    (∀ keys sch e, maybeDecryptEvent L keys sch payload = some e → e.Honest L) ↔
      ¬(encVerified L (.obj payload) = true ∧ passedOn L payload = true) := by
  constructor
  · rintro hall ⟨hverified, hpassed⟩
    have hemit := maybeDecryptEvent_of_passedOn L hpassed {} {}
    obtain ⟨plain, hopened, -⟩ := hall _ _ _ hemit hverified
    cases hopened
  · intro hnot keys sch e hemit
    obtain ⟨hpassed, rfl⟩ | hhonest := maybeDecryptEvent_cases L hemit
    · exact fun hverified => (hnot ⟨hverified, hpassed⟩).elim
    · exact hhonest

/-- A library for the example: nothing parses and nothing opens. -/
def emptyLib : Lib Unit where
  foldName := id
  parseInt _ := none
  int64 _ := 0
  parseUint _ _ := none
  trimSpace := id
  sscan _ := 0
  truthyNumber _ := true
  openScope _ _ := none
  openDM _ _ _ := none

/-- A chat event in the clear that claims to be verified and has a text where the id should be. -/
def forgedEvent : List (String × Json) :=
  [("type", .str "chat"), ("data", .obj [("from", .str "bob"), ("text", .str "hi"),
    ("enc_verified", .bool true), ("id", .str "x")])]

/-- The frontend is handed the event as it is and takes it for verified. -/
theorem forged_event_taken_for_verified :
    maybeDecryptEvent emptyLib {} {} forgedEvent = some ⟨.obj forgedEvent, none⟩ ∧
      encVerified emptyLib (.obj forgedEvent) = true :=
  ⟨maybeDecryptEvent_of_passedOn emptyLib (by decide +kernel) {} {}, by decide +kernel⟩

end Voicx.Client
