import Voicx.Server.ChannelEdit
import Voicx.Server.ChatRequests

/-!
# Chat stays inside readable scopes

What a client that cannot read a channel's chat can do to it. The requests that name the channel ask
`scopeReadable` before anything else. `handleChatEdit` and `handleChatReact` find the scope through
the message they name, and do not ask.

* `ChatRequest.Names` — the request names the scope, or a message stored in it.
* `StaysOut` — the property: no row of the scope changes, no event reaches its members, no row,
  count or key of it is returned.
* `ReactsToLive`, `EditsOwnLive` — the requests that get through to a scope by a message of it.
* `chat_stays_out_iff` — a request of a client that cannot read the scope stays out of it exactly
  when it is neither.
-/

namespace Voicx.Server

open Found State Permissions Chat ChatKeyManager List ChatStore

/-! ## The property -/

/-- The request names the scope, or a message stored in it. -/
def ChatRequest.Names (chat : ChatStore) (scope : Int) : ChatRequest → Prop
  | .send msg => msg.scope = some scope ∨ (msg.replyToID ≠ 0 ∧ chat.InScope scope msg.replyToID)
  | .edit msg => chat.InScope scope msg.messageID
  | .react msg => chat.InScope scope msg.messageID
  | .typing msg => msg.channelID = scope
  | .history msg => msg.channelID = scope ∨ chat.InScope scope msg.beforeID
  | .pins channelID => channelID = scope
  | .keyRequest channelID _ => channelID = scope

/-- An event for this recipient goes to the members of the channel. -/
def Recipient.Reaches (channelID : Int) : Recipient → Prop
  | .everyone => True
  | .channel id => id = channelID
  | .client _ => False

/-- The reply holds a row, a count or a key of the scope. -/
def ChatReply.Discloses (chat : ChatStore) (scope : Int) : ChatReply → Prop
  | .error _ => False
  | .history _ messages bundle =>
    (∃ e ∈ messages, chat.InScope scope e.id) ∨ ∃ k ∈ bundle.keys, k.channelID = scope
  | .pins channelID entries bundle =>
    (channelID = scope ∧ entries ≠ []) ∨ (∃ p ∈ entries, chat.InScope scope p.messageID) ∨
      ∃ k ∈ bundle.keys, k.channelID = scope
  | .keys _ bundle => ∃ k ∈ bundle.keys, k.channelID = scope

/-- The generations of a scope as they are stored, and the next id. -/
def KeyStore.rowsOf (st : KeyStore) (scope : Int) : Nat × List ScopeKey :=
  (st.nextKeyID scope, st.rows scope)

/-- The request did nothing to the scope and learned nothing of it. -/
structure StaysOut (cs : ChatState) (out : ChatOutcome) (scope : Int) : Prop where
  rows : out.chat.rowsOf scope = cs.chat.rowsOf scope
  keys : out.keys.store.rowsOf scope = cs.keys.store.rowsOf scope
  events : ∀ e ∈ out.events, ¬e.1.Reaches scope
  reply : ∀ r ∈ out.reply, ¬r.Discloses cs.chat scope

/-! ## The condition -/

/-- A reaction with a valid emoji to a message that is not deleted, while the tables answer. -/
def ReactsToLive (cs : ChatState) (o : ChatOracle) (msg : ChatReact) : Prop :=
  msg.emoji ≠ "" ∧ msg.emoji.length ≤ 32 ∧ o.reads = true ∧ o.writes = true ∧
    ∃ m, cs.chat.getChatMessage msg.messageID = some m ∧ m.deletedAt = none

variable (cfg : ChatConfig)

/-- The new body of an edit is accepted: encrypted under the scope's current generation, or in the
clear where that is allowed and the scope has a generation; short enough and not filtered. -/
def BodyAccepted (cs : ChatState) (msg : ChatEdit) (scope : Int) : Prop :=
  ∃ plain, contentRefusal cfg plain = none ∧
    if msg.enc then
      (cs.keys.current scope).1 = some msg.keyID ∧
        cfg.openBody scope msg.keyID msg.newText = some plain
    else cfg.chatAllowPlaintext = true ∧ plain = msg.newText ∧
      (cs.keys.current scope).1.isSome = true

/-- An edit of the sender's own message that is not deleted and has the expected version, with a
body that is accepted, while the tables answer. -/
def EditsOwnLive (cs : ChatState) (o : ChatOracle) (caller : ChatCaller) (msg : ChatEdit) : Prop :=
  o.reads = true ∧ o.writes = true ∧
    ∃ m, cs.chat.getChatMessage msg.messageID = some m ∧ m.deletedAt = none ∧
      m.fromUniqueID = caller.uniqueID ∧
      (msg.expectedVersion = 0 ∨ m.version = msg.expectedVersion) ∧
      BodyAccepted cfg cs msg m.channelID

/-- The request gets through to the scope of the message it names. -/
def ActsOnMessage (cs : ChatState) (o : ChatOracle) (caller : ChatCaller) :
    ChatRequest → Prop
  | .edit msg => EditsOwnLive cfg cs o caller msg
  | .react msg => ReactsToLive cs o msg
  | _ => False

/-! ## Key tables -/

section keys

variable {m : ChatKeyManager} {scope : Int}

@[simp] lemma current_store : (m.current scope).2.store = m.store := loadLocked_store

lemma store_of_current {m' : ChatKeyManager} {current : Option Nat}
    (h : m.current scope = (current, m')) : m'.store = m.store :=
  (congrArg (fun r => r.2.store) h).symm.trans current_store

@[simp] lemma atGeneration_store (gen : Nat) : (m.atGeneration scope gen).2.store = m.store := by
  unfold atGeneration
  dsimp only
  split_ifs
  · rfl
  · exact loadLocked_store
  · cases (m.loadLocked scope).store.getScopeKey scope gen <;> exact loadLocked_store

/-- The first generation of a scope is nothing to another. -/
lemma rowsOf_ensureScope (now : Nat) {other : Int} (hne : other ≠ scope) :
    (m.ensureScope now scope).2.store.rowsOf other = m.store.rowsOf other := by
  unfold ensureScope
  dsimp only
  split_ifs
  · rw [loadLocked_store]
  · simp [mintLocked, setEntry, KeyStore.allocScopeKeyID,
      KeyStore.insertScopeKey, KeyStore.rowsOf, hne]

/-- The current generation is one that `at` finds. -/
lemma atGeneration_current {id : Nat} (h : (m.current scope).1 = some id) :
    ((m.current scope).2.atGeneration scope id).1 = true := by
  simp only [current] at h ⊢
  split_ifs at h with hzero
  cases h
  have hload : (m.loadLocked scope).loadLocked scope = m.loadLocked scope := by
    rw [loadLocked, if_pos loadLocked_loaded]
  simp [atGeneration, hzero, hload]

end keys

/-! ## Requests that ask -/

section requests

variable {cfg : ChatConfig} {cs : ChatState} {o : ChatOracle} {caller : ChatCaller}
  {scope channelID : Int} {keys keys' : ChatKeyManager} {text : String} {keyID : Nat}

lemma staysOut_refuse {code : ErrCode}
    (hkeys : keys.store.rowsOf scope = cs.keys.store.rowsOf scope) :
    StaysOut cs (cs.refuse keys code text) scope where
  rows := rfl
  keys := hkeys
  events e he := absurd he not_mem_nil
  reply r hr := by
    cases hr
    exact not_false

variable {out : ChatOutcome} {enc : Bool} {st : KeyStore} {m : ChatMessage}

/-- Rows and keys as they were, and no reply. -/
lemma staysOut_of_events (hchat : out.chat = cs.chat) (hkeys : out.keys = cs.keys)
    (hevents : ∀ e ∈ out.events, ¬e.1.Reaches scope) (hreply : out.reply = none) :
    StaysOut cs out scope where
  rows := by rw [hchat]
  keys := by rw [hkeys]
  events := hevents
  reply r hr := by simp [hreply] at hr

/-- A direct message goes to single clients. -/
lemma staysOut_deliverDirect (msg : ChatSend) (clientID : String) :
    StaysOut cs (deliverDirect cs o caller msg clientID) scope := by
  unfold deliverDirect
  split_ifs
  · apply staysOut_of_events rfl rfl _ rfl
    simp [ChatState.emit, Recipient.Reaches]
  · exact staysOut_refuse rfl

lemma staysOut_sendDirectByUniqueID (msg : ChatSend) :
    StaysOut cs (sendDirectByUniqueID cs o caller msg) scope := by
  unfold sendDirectByUniqueID
  cases o.clientByUniqueID msg.toUniqueID with
  | some clientID => exact staysOut_deliverDirect msg clientID
  | none =>
    cases o.account with
    | notFound | failed => exact staysOut_refuse rfl
    | found =>
      split_ifs
      · exact staysOut_refuse rfl
      · exact staysOut_refuse rfl
      · exact staysOut_of_events rfl rfl (forall_mem_nil _) rfl

lemma plainOf_store {plain : Option String}
    (h : plainOf cfg keys channelID enc keyID text = (plain, keys')) :
    keys'.store = keys.store := by
  unfold plainOf at h
  split_ifs at h <;> cases h <;> simp

lemma bodyToStore_store {plain : String} {body : Option (String × Nat)}
    (h : bodyToStore cfg keys channelID enc keyID text plain = (body, keys')) :
    keys'.store = keys.store := by
  unfold bodyToStore at h
  split_ifs at h <;> cases h <;> simp

/-- A reply to a message of another scope is refused, whether or not the tables answer. -/
lemma exists_replyRefusal {replyToID : Int} (hne : scope ≠ channelID) (hreply : replyToID ≠ 0)
    (hin : cs.chat.InScope scope replyToID) :
    ∃ e, replyRefusal cs o channelID replyToID = some e := by
  obtain ⟨parent, hparent, rfl⟩ := inScope_iff.mp hin
  unfold replyRefusal
  rw [if_neg hreply, hparent]
  simp only [bne_iff_ne.mpr hne, Bool.or_true, if_true]
  split_ifs <;> exact ⟨_, rfl⟩

/-- So a message of one scope that replies to a message of another is neither stored nor relayed.
The scope it is for may get its first generation. -/
lemma staysOut_relayModerated {msg : ChatSend} {plain : String} (hne : scope ≠ channelID)
    (hkeys : keys.store = cs.keys.store) (hreply : msg.replyToID ≠ 0)
    (hin : cs.chat.InScope scope msg.replyToID) :
    StaysOut cs (relayModerated cfg cs o caller keys msg channelID plain) scope := by
  unfold relayModerated
  dsimp only
  have hensure : (if msg.enc then keys else (keys.ensureScope o.now channelID).2).store.rowsOf
      scope = cs.keys.store.rowsOf scope := by
    split_ifs
    · rw [hkeys]
    · rw [rowsOf_ensureScope o.now hne, hkeys]
  cases hbody : bodyToStore cfg (if msg.enc then keys else (keys.ensureScope o.now channelID).2)
      channelID msg.enc msg.keyID msg.text plain with
  | mk body keys' =>
    rw [← bodyToStore_store hbody] at hensure
    obtain ⟨e, he⟩ := exists_replyRefusal (o := o) hne hreply hin
    cases body with
    | none => exact staysOut_refuse hensure
    | some body =>
      simp only [he]
      exact staysOut_refuse hensure

lemma staysOut_routeScopedChat {msg : ChatSend} (hne : scope ≠ channelID)
    (hkeys : keys.store = cs.keys.store) (hreply : msg.replyToID ≠ 0)
    (hin : cs.chat.InScope scope msg.replyToID) :
    StaysOut cs (routeScopedChat cfg cs o caller keys msg channelID) scope := by
  unfold routeScopedChat
  cases slowModeRefusal cfg cs o caller channelID with
  | some text => exact staysOut_refuse (by rw [hkeys])
  | none =>
    cases hplain : plainOf cfg keys channelID msg.enc msg.keyID msg.text with
    | mk plain keys' =>
      have hkeys' : keys'.store = cs.keys.store := (plainOf_store hplain).trans hkeys
      cases plain with
      | none => exact staysOut_refuse (by rw [hkeys'])
      | some plain =>
        dsimp only
        cases contentRefusal cfg plain with
        | some text => exact staysOut_refuse (by rw [hkeys'])
        | none =>
          split_ifs
          · exact staysOut_refuse (by rw [hkeys'])
          · exact staysOut_relayModerated hne hkeys' hreply hin

section

variable (hscope : scopeReadable cfg cs o caller scope = false)

include hscope

/-- A message for a scope the sender can read, in reply to one of a scope it cannot. -/
lemma staysOut_sendScoped {msg : ChatSend}
    (hin : channelID = scope ∨ (msg.replyToID ≠ 0 ∧ cs.chat.InScope scope msg.replyToID)) :
    StaysOut cs (sendScoped cfg cs o caller msg channelID) scope := by
  unfold sendScoped
  cases hread : scopeReadable cfg cs o caller channelID with
  | false => exact staysOut_refuse rfl
  | true =>
    have hne : scope ≠ channelID := by
      rintro rfl
      simp [hscope] at hread
    obtain ⟨hreply, hin⟩ := hin.resolve_left (Ne.symm hne)
    cases msg.enc with
    | false => exact staysOut_routeScopedChat hne rfl hreply hin
    | true =>
      rcases hcurrent : cs.keys.current channelID with ⟨_ | currentID, keys⟩
      · exact staysOut_refuse (by rw [store_of_current hcurrent])
      have hkeys : keys.store = cs.keys.store := store_of_current hcurrent
      dsimp only
      by_cases hstale : msg.keyID ≠ currentID
      · rw [if_pos hstale]
        exact staysOut_refuse (by rw [hkeys])
      · rw [if_neg hstale]
        exact staysOut_routeScopedChat hne hkeys hreply hin

lemma staysOut_handleChatSend {msg : ChatSend}
    (hnames : (ChatRequest.send msg).Names cs.chat scope) :
    StaysOut cs (handleChatSend cfg cs o caller msg) scope := by
  unfold handleChatSend
  cases sendRefusal cfg o caller msg with
  | some e => exact staysOut_refuse rfl
  | none =>
    split_ifs
    · exact staysOut_sendDirectByUniqueID msg
    · exact staysOut_deliverDirect msg msg.toClientID
    · cases hmsg : msg.scope with
      | none => exact staysOut_refuse rfl
      | some channelID =>
        apply staysOut_sendScoped hscope
        simpa [ChatRequest.Names, hmsg] using hnames

lemma staysOut_handleTyping {msg : Typing} (hnames : msg.channelID = scope) :
    StaysOut cs (handleTyping cfg cs o caller msg) scope := by
  have hne : msg.channelID ≠ 0 := by
    rintro hzero
    simp [scopeReadable, ← hnames, hzero] at hscope
  subst hnames
  unfold handleTyping
  dsimp only
  rw [hscope, if_neg Bool.false_ne_true]
  split_ifs
  · exact staysOut_of_events rfl rfl (forall_mem_nil _) rfl
  · cases o.clientByUniqueID msg.toUniqueID with
    | none => exact staysOut_of_events rfl rfl (forall_mem_nil _) rfl
    | some clientID =>
      apply staysOut_of_events rfl rfl _ rfl
      simp [ChatState.emit, Recipient.Reaches]
  · exact staysOut_of_events rfl rfl (forall_mem_nil _) rfl

end

/-! ### Pages -/

/-- A bundle under way for a scope: the keys in it are of that scope, the key tables are as
before. -/
def BundleOf (st : KeyStore) (channelID : Int) (acc : KeyBundle × ChatKeyManager) : Prop :=
  (∀ k ∈ acc.1.keys, k.channelID = channelID) ∧ acc.2.store = st

lemma BundleOf.sealInto {acc : KeyBundle × ChatKeyManager} (h : BundleOf st channelID acc)
    (memberPub : String) (gen : Nat) :
    BundleOf st channelID (sealInto channelID memberPub acc gen) := by
  unfold Voicx.Server.sealInto
  split_ifs
  · refine ⟨fun k hk => ?_, (atGeneration_store gen).trans h.2⟩
    rcases mem_append.mp hk with hk | hk
    · exact h.1 k hk
    · rw [mem_singleton.mp hk]
  · exact ⟨h.1, (atGeneration_store gen).trans h.2⟩

lemma BundleOf.sealUpTo {memberPub : String} (gens : List Nat) :
    ∀ {acc : KeyBundle × ChatKeyManager}, BundleOf st channelID acc →
      BundleOf st channelID (sealUpTo channelID memberPub gens acc) := by
  induction gens with
  | nil => exact fun h => h
  | cons gen rest ih =>
    intro acc h
    unfold Voicx.Server.sealUpTo
    split_ifs
    · exact h
    · exact ih (h.sealInto memberPub gen)

/-- The generations that ride along with a page are of the page's scope. -/
lemma bundleOf_scopeKeyBundle (keys : ChatKeyManager) (channelID : Int) (memberPub : String)
    (gens : List Nat) :
    BundleOf keys.store channelID (scopeKeyBundle keys channelID memberPub gens) := by
  have hstart : BundleOf keys.store channelID ({}, keys) :=
    ⟨fun k hk => absurd hk not_mem_nil, rfl⟩
  have h : BundleOf keys.store channelID (sealUpTo channelID memberPub
      (gens.dedup.insertionSort (· ≥ ·)) ({}, keys)) := hstart.sealUpTo _
  exact ⟨fun k hk => h.1 k ((mem_insertionSort _).mp hk), h.2⟩

/-- A message of a page is of the page's scope. -/
lemma not_inScope_of_mem_chatHistory {before limit : Int} (hne : channelID ≠ scope)
    (hm : m ∈ cs.chat.chatHistory channelID before limit) : ¬cs.chat.InScope scope m.id := by
  obtain ⟨hmem, hchannel⟩ := mem_chatHistory hm
  rintro ⟨m', hmem', hid, hchannel'⟩
  have hsame : m' = m := eq_of_id_eq hmem' hmem hid
  subst hsame
  exact hne (hchannel.symm.trans hchannel')

section reads

variable (hscope : scopeReadable cfg cs o caller scope = false)

include hscope

lemma staysOut_handleChatHistory {msg : ChatHistory} :
    StaysOut cs (handleChatHistory cfg cs o caller msg) scope := by
  unfold handleChatHistory
  cases hread : scopeReadable cfg cs o caller msg.channelID with
  | false => exact staysOut_refuse rfl
  | true =>
    have hne : msg.channelID ≠ scope := by
      rintro rfl
      simp [hscope] at hread
    rw [if_neg (by decide)]
    by_cases hpub : publishedKey cs caller = ""
    · rw [if_pos hpub]
      exact staysOut_refuse rfl
    rw [if_neg hpub]
    cases o.reads with
    | false => exact staysOut_refuse rfl
    | true =>
      rw [if_neg (by decide)]
      have hbundle := bundleOf_scopeKeyBundle cs.keys msg.channelID (publishedKey cs caller)
      refine ⟨rfl, ?_, forall_mem_nil _, ?_⟩
      · rw [(hbundle _).2]
      rintro r hr
      cases hr
      rintro (⟨e, he, hin⟩ | ⟨k, hk, hkey⟩)
      · obtain ⟨m, hm, rfl⟩ := mem_map.mp he
        exact not_inScope_of_mem_chatHistory hne hm hin
      · exact hne (((hbundle _).1 k hk).symm.trans hkey)

lemma staysOut_handleChatKeyRequest (keyIDs : List Nat) :
    StaysOut cs (handleChatKeyRequest cfg cs o caller scope keyIDs) scope := by
  unfold handleChatKeyRequest
  rw [hscope]
  split_ifs
  · exact staysOut_refuse rfl
  · exact staysOut_refuse rfl
  · exact staysOut_refuse rfl
  · refine ⟨rfl, rfl, forall_mem_nil _, ?_⟩
    rintro r hr
    cases hr
    rintro ⟨k, hk, -⟩
    exact absurd hk not_mem_nil
  · contradiction

end reads

/-! ## Requests that do not ask -/

lemma liveMessage_eq_some_iff {messageID : Int} :
    liveMessage cs messageID = some m ↔
      cs.chat.getChatMessage messageID = some m ∧ m.deletedAt = none := by
  simp [liveMessage]

/-- An event for the scope of a channel reaches its members. -/
lemma not_staysOut_of_event {e : ChatEvent} (h : (scopeRecipient scope, e) ∈ out.events) :
    ¬StaysOut cs out scope := by
  intro hout
  apply hout.events _ h
  unfold scopeRecipient
  split_ifs
  · trivial
  · rfl

lemma staysOut_handleChatReact_iff {msg : ChatReact} (hin : cs.chat.InScope scope msg.messageID) :
    StaysOut cs (handleChatReact cs o caller msg) scope ↔ ¬ReactsToLive cs o msg := by
  obtain ⟨m, hm, rfl⟩ := inScope_iff.mp hin
  constructor
  · rintro hout ⟨hemoji, hlen, hreads, hwrites, n, hn, hlive⟩
    rw [hm] at hn
    cases hn
    have hstored : liveMessage cs msg.messageID = some m :=
      liveMessage_eq_some_iff.mpr ⟨hm, hlive⟩
    apply not_staysOut_of_event _ hout
    · exact .reaction msg.messageID m.channelID
        (cs.chat.toggleReaction msg.messageID caller.uniqueID msg.emoji).1.1 caller.uniqueID
        (cs.chat.toggleReaction msg.messageID caller.uniqueID msg.emoji).1.2
    · simp [handleChatReact, hemoji, Nat.not_lt.mpr hlen, hreads, hwrites, hstored]
  · intro hnot
    unfold handleChatReact
    split_ifs with hemoji hreads hwrites
    · exact staysOut_refuse rfl
    · exact staysOut_refuse rfl
    · cases liveMessage cs msg.messageID <;> exact staysOut_refuse rfl
    cases hstored : liveMessage cs msg.messageID with
    | none => exact staysOut_refuse rfl
    | some stored =>
      refine absurd ?_ hnot
      push Not at hemoji
      exact ⟨hemoji.1, hemoji.2, by simpa using hreads, by simpa using hwrites, stored,
        liveMessage_eq_some_iff.mp hstored⟩

/-- The body of an edit leaves the key tables alone, accepted or not. -/
lemma moderatedBody_store {msg : ChatEdit} {body : Except ErrorReply (String × Nat)}
    (h : moderatedBody cfg keys msg channelID = (body, keys')) : keys'.store = keys.store := by
  unfold moderatedBody at h
  cases hplain : plainOf cfg keys channelID msg.enc msg.keyID msg.newText with
  | mk plain keys₁ =>
    have hkeys₁ := plainOf_store hplain
    rw [hplain] at h
    cases plain with
    | none =>
      cases h
      exact hkeys₁
    | some plain =>
      dsimp only at h
      cases hcontent : contentRefusal cfg plain with
      | some text =>
        rw [hcontent] at h
        cases h
        exact hkeys₁
      | none =>
        rw [hcontent] at h
        cases hbody : bodyToStore cfg keys₁ channelID msg.enc msg.keyID msg.newText plain with
        | mk stored keys₂ =>
          have hkeys₂ := (bodyToStore_store hbody).trans hkeys₁
          rw [hbody] at h
          cases stored <;> cases h <;> exact hkeys₂

lemma editedBody_store {msg : ChatEdit} {body : Except ErrorReply (String × Nat)}
    (h : editedBody cfg cs msg channelID = (body, keys)) : keys.store = cs.keys.store := by
  unfold editedBody at h
  split_ifs at h
  · rcases hcurrent : cs.keys.current channelID with ⟨_ | currentID, keys₁⟩
    · rw [hcurrent] at h
      cases h
      exact store_of_current hcurrent
    rw [hcurrent] at h
    dsimp only at h
    split_ifs at h
    · cases h
      exact store_of_current hcurrent
    · exact (moderatedBody_store h).trans (store_of_current hcurrent)
  · exact moderatedBody_store h

lemma moderatedBody_ok_iff {msg : ChatEdit} :
    (∃ body, (moderatedBody cfg keys msg channelID).1 = .ok body) ↔
      ∃ plain, contentRefusal cfg plain = none ∧
        if msg.enc then (keys.atGeneration channelID msg.keyID).1 = true ∧
          cfg.openBody channelID msg.keyID msg.newText = some plain
        else plain = msg.newText ∧ (keys.current channelID).1.isSome = true := by
  unfold moderatedBody plainOf bodyToStore
  cases msg.enc with
  | true =>
    cases (keys.atGeneration channelID msg.keyID).1 with
    | false => simp
    | true =>
      cases cfg.openBody channelID msg.keyID msg.newText with
      | none => simp
      | some plain => cases hcontent : contentRefusal cfg plain <;> simp [hcontent]
  | false =>
    cases hcontent : contentRefusal cfg msg.newText with
    | some text => simp [hcontent]
    | none => cases hcurrent : (keys.current channelID).1 <;> simp [hcontent, hcurrent]

lemma editedBody_ok_iff {msg : ChatEdit}
    (hplain : msg.enc = false → cfg.chatAllowPlaintext = true) :
    (∃ body, (editedBody cfg cs msg channelID).1 = .ok body) ↔
      BodyAccepted cfg cs msg channelID := by
  unfold editedBody BodyAccepted
  cases henc : msg.enc with
  | false =>
    rw [if_neg (by decide), moderatedBody_ok_iff]
    simp [henc, hplain henc]
  | true =>
    simp only [if_true]
    rcases hcurrent : cs.keys.current channelID with ⟨_ | currentID, keys⟩
    · simp
    dsimp only
    by_cases hstale : currentID = msg.keyID
    · subst hstale
      have hfound : (keys.atGeneration channelID msg.keyID).1 = true := by
        have h := @atGeneration_current cs.keys channelID msg.keyID
        rw [hcurrent] at h
        exact h rfl
      rw [if_neg (not_not_intro rfl), moderatedBody_ok_iff]
      simp [henc, hfound]
    · simp [hstale, Ne.symm hstale]

/-- The end of an edit: refused, or the event to the scope of the message. -/
lemma staysOut_applyEdit_iff {msg : ChatEdit} {body : String} (hkeys : keys.store = cs.keys.store) :
    StaysOut cs (applyEdit cs o caller keys msg scope body keyID) scope ↔
      ¬(o.writes = true ∧ ∃ m, cs.chat.getChatMessage msg.messageID = some m ∧ m.deletedAt = none ∧
        (msg.expectedVersion = 0 ∨ m.version = msg.expectedVersion)) := by
  rw [← @ChatStore.editChatMessage_isSome_iff _ _ o.now body keyID]
  unfold applyEdit
  cases o.writes with
  | false => simpa using staysOut_refuse (by rw [hkeys])
  | true =>
    cases cs.chat.editChatMessage o.now msg.messageID body keyID msg.expectedVersion with
    | none => simpa using staysOut_refuse (by rw [hkeys])
    | some edited =>
      simp only [Option.isSome_some, and_self, not_true_eq_false, iff_false]
      exact not_staysOut_of_event (mem_singleton_self _)

lemma staysOut_handleChatEdit_iff {msg : ChatEdit} (hin : cs.chat.InScope scope msg.messageID) :
    StaysOut cs (handleChatEdit cfg cs o caller msg) scope ↔ ¬EditsOwnLive cfg cs o caller msg := by
  obtain ⟨m, hm, rfl⟩ := inScope_iff.mp hin
  have hrefused : ∀ {keys : ChatKeyManager} {code text}, keys.store = cs.keys.store →
      ¬EditsOwnLive cfg cs o caller msg →
      (StaysOut cs (cs.refuse keys code text) m.channelID ↔ ¬EditsOwnLive cfg cs o caller msg) :=
    fun hkeys hnot => ⟨fun _ => hnot, fun _ => staysOut_refuse (by rw [hkeys])⟩
  unfold handleChatEdit
  split_ifs with hclear hreads
  · -- in the clear although that is not allowed
    apply hrefused rfl
    rintro ⟨-, -, n, -, -, -, -, plain, -, hbody⟩
    simp_all
  · apply hrefused rfl
    rintro ⟨hr, -⟩
    simp [hr] at hreads
  cases hlive : liveMessage cs msg.messageID with
  | none =>
    apply hrefused rfl
    rintro ⟨-, -, n, hn, hdeleted, -⟩
    simp [liveMessage_eq_some_iff.mpr ⟨hn, hdeleted⟩] at hlive
  | some stored =>
    obtain ⟨hstored, hdeleted⟩ := liveMessage_eq_some_iff.mp hlive
    rw [hm] at hstored
    cases hstored
    dsimp only
    by_cases hown : m.fromUniqueID = caller.uniqueID
    · rw [if_neg (not_not_intro hown)]
      have hplain : msg.enc = false → cfg.chatAllowPlaintext = true := by
        intro henc
        simpa [henc] using hclear
      have haccepted := @editedBody_ok_iff cfg cs m.channelID msg hplain
      rcases hbody : editedBody cfg cs msg m.channelID with ⟨e | ⟨body, keyID⟩, keys⟩
      · apply hrefused (editedBody_store hbody)
        rintro ⟨-, -, n, hn, -, -, -, hok⟩
        rw [hm] at hn
        cases hn
        simpa [hbody] using haccepted.mpr hok
      · have hok : BodyAccepted cfg cs msg m.channelID :=
          haccepted.mp ⟨(body, keyID), by rw [hbody]⟩
        rw [staysOut_applyEdit_iff (editedBody_store hbody)]
        simp [EditsOwnLive, hm, hdeleted, hown, hok, show o.reads = true by simpa using hreads]
    · rw [if_pos hown]
      apply hrefused rfl
      rintro ⟨-, -, n, hn, -, hauthor, -⟩
      rw [hm] at hn
      cases hn
      exact hown hauthor

end requests

/-! ## Every request -/

/-- **What a client does to a scope it cannot read.** For every client, every scope it cannot read
and every request that names the scope or a message stored in it: the request stays out of the scope
exactly when it neither reacts to a live message nor edits a live message of the sender's own. -/
theorem chat_stays_out_iff (cfg : ChatConfig) (cs : ChatState) (o : ChatOracle) (caller : ChatCaller)
    (req : ChatRequest) (scope : Int) (hscope : scopeReadable cfg cs o caller scope = false)
    (hnames : req.Names cs.chat scope) :
    StaysOut cs (handleChat cfg cs o caller req) scope ↔ ¬ActsOnMessage cfg cs o caller req := by
  cases req with
  | send msg => exact iff_of_true (staysOut_handleChatSend hscope hnames) not_false
  | edit msg => exact staysOut_handleChatEdit_iff hnames
  | react msg => exact staysOut_handleChatReact_iff hnames
  | typing msg => exact iff_of_true (staysOut_handleTyping hscope hnames) not_false
  | history msg => exact iff_of_true (staysOut_handleChatHistory hscope) not_false
  | pins channelID =>
    cases hnames
    refine iff_of_true ?_ not_false
    rw [handleChat, handleChatPins, hscope]
    exact staysOut_refuse rfl
  | keyRequest channelID keyIDs =>
    cases hnames
    exact iff_of_true (staysOut_handleChatKeyRequest hscope keyIDs) not_false

/-- The right to delete the messages of others. -/
def chatDeleteAny : String := "b_chat_delete_any"

def clearTextConfig : ChatConfig where
  chatAllowPlaintext := true
  openBody := fun _ _ text => some text
  sealBody := fun _ _ text => text

/-- Bob stands in channel 1. Channel 2 holds a message of Alice's and one he wrote there. -/
def pastTheDoor : ChatState where
  world :=
    { state := run Manager.step Manager.new
        [.addChannel { channelID := 1 }, .addChannel { channelID := 2 },
          .addClient { clientID := "bob" }, .joinChannel "bob" 1]
      sessions := (∅ : FMap String Session).insert "bob" { userID := 8, authed := true }
      db := PermDB.empty }
  chat :=
    { messages :=
        [{ id := 2, channelID := 2, fromUniqueID := "bob-id", bodyEnc := "hello", keyID := 1,
           sentAt := 20 },
          { id := 1, channelID := 2, fromUniqueID := "alice-id", bodyEnc := "hi", keyID := 1,
            sentAt := 10 }]
      nextID := 3
      reactions := []
      pins := []
      newestFirst := by decide
      fresh := by decide }
  keys := ((ChatKeyManager.fresh KeyStore.empty).ensureScope 0 2).2

def bob : ChatCaller where
  clientID := "bob"
  uniqueID := "bob-id"
  session := { userID := 8, authed := true }

/-- History of the channel Bob is not in. -/
theorem chat_stays_out_iff_history :
    StaysOut pastTheDoor (handleChat clearTextConfig pastTheDoor {} bob (.history { channelID := 2 }))
      2 :=
  (chat_stays_out_iff clearTextConfig pastTheDoor {} bob (.history { channelID := 2 }) 2 (by decide)
    (Or.inl rfl)).mpr not_false

/-- **A client that left a channel still acts in it.** Bob, who has no right beyond a plain user's
and cannot read channel 2, reacts to Alice's message there and rewrites his own; both reach its
members. -/
theorem outsider_reacts_and_edits :
    scopeReadable clearTextConfig pastTheDoor {} bob 2 = false ∧ bob.session.isAdmin = false ∧
      (∀ key ∈ [chatDeleteAny, channelModify], (permCheckerFor clearTextConfig.guestGroupID
        pastTheDoor.world.db (pastTheDoor.world.caller bob.clientID bob.session)).granted key =
          false) ∧
      ¬StaysOut pastTheDoor
        (handleChat clearTextConfig pastTheDoor {} bob (.react { messageID := 1, emoji := "x" })) 2 ∧
      ¬StaysOut pastTheDoor
        (handleChat clearTextConfig pastTheDoor {} bob (.edit { messageID := 2, newText := "bye" }))
        2 := by
  refine ⟨by decide, rfl, by decide, ?_, ?_⟩
  · exact not_staysOut_of_event (e := .reaction 1 2 [("x", 1)] "bob-id" true) (by decide)
  · exact not_staysOut_of_event (e := .edited 2 2 "bye" 1 "bob-id" 2) (by decide)

end Voicx.Server
