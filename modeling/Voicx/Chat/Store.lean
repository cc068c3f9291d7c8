import Mathlib.Tactic

/-!
# The chat tables

Model of `internal/store/chat.go`: the rows of channel and global messages, reactions and pins, with
ids from a sequence. A call that fails changes nothing; callers say whether their calls fail.

* `ChatStore` — the tables. Rows stand newest first, which is what the sequence makes of insertion.
* `storeChatMessage`, `chatHistory`, `getChatMessage`, `editChatMessage`, `chatPins`,
  `pinChatMessage`, `unpinChatMessage`, `toggleReaction` — the queries.
* `ChatStore.InScope`, `ChatStore.rowsOf` — what belongs to a scope.
* `getChatMessage_eq_some_iff` — an id names one row.

Source names without a file are from `internal/store/chat.go`.
-/

namespace Voicx.Chat

open List

/-- A stored message. `channelID` 0 is the global scope.
Source: `ChatMessage` -/
structure ChatMessage where
  id : Int
  channelID : Int
  fromUniqueID : String
  fromNickname : String := ""
  replyToID : Int := 0
  version : Nat := 1
  clientMsgID : String := ""
  bodyEnc : String
  keyID : Nat
  sentAt : Int
  editedAt : Option Int := none
  deletedAt : Option Int := none
  deriving DecidableEq, Repr

/-- A row of `chat_reactions`; the whole row is its key. -/
structure Reaction where
  messageID : Int
  uniqueID : String
  emoji : String
  deriving DecidableEq, Repr

/-- A row of `pinned_messages`; channel and message are its key. -/
structure Pin where
  channelID : Int
  messageID : Int
  pinnedBy : String
  pinnedAt : Int
  deriving DecidableEq, Repr

/-- The tables. -/
structure ChatStore where
  /-- newest first -/
  messages : List ChatMessage
  /-- the id sequence -/
  nextID : Int
  reactions : List Reaction
  /-- oldest first -/
  pins : List Pin
  newestFirst : (messages.map ChatMessage.id).Pairwise (· > ·)
  fresh : ∀ m ∈ messages, m.id < nextID

namespace ChatStore

variable (st : ChatStore)

/-- Source: `GetChatMessage` -/
def getChatMessage (id : Int) : Option ChatMessage :=
  st.messages.find? fun m => m.id == id

/-- A page of a scope, newest first, below `beforeID` where that is positive.
Source: `ChatHistory` -/
def chatHistory (channelID beforeID limit : Int) : List ChatMessage :=
  let limit := if limit ≤ 0 ∨ limit > 200 then 50 else limit
  (st.messages.filter fun m =>
    m.channelID == channelID && (decide (beforeID ≤ 0) || decide (m.id < beforeID))).take limit.toNat

/-- The row a retry with the same client message id finds. -/
def retryOf (channelID : Int) (fromUniqueID clientMsgID : String) : Option ChatMessage :=
  if clientMsgID = "" then none
  else st.messages.find? fun m =>
    m.channelID == channelID && m.fromUniqueID == fromUniqueID && m.clientMsgID == clientMsgID

/-- A new row in front of the others. -/
def insert (m : ChatMessage) : ChatStore where
  messages := { m with id := st.nextID } :: st.messages
  nextID := st.nextID + 1
  reactions := st.reactions
  pins := st.pins
  newestFirst := by
    refine pairwise_cons.mpr ⟨fun id hid => ?_, st.newestFirst⟩
    obtain ⟨m, hm, rfl⟩ := mem_map.mp hid
    exact st.fresh m hm
  fresh := by
    intro m hm
    rcases mem_cons.mp hm with rfl | hm
    · exact Int.lt_succ _
    · exact (st.fresh m hm).trans (Int.lt_succ _)

/-- Insert a message, unless it is a retry; the id, and whether it was inserted.
Source: `StoreChatMessage` -/
def storeChatMessage (now channelID : Int) (fromUniqueID fromNickname bodyEnc : String)
    (keyID : Nat) (replyToID : Int) (clientMsgID : String) : (Int × Bool) × ChatStore :=
  match st.retryOf channelID fromUniqueID clientMsgID with
  | some m => ((m.id, false), st)
  | none =>
    ((st.nextID, true),
      st.insert
        { id := st.nextID, channelID, fromUniqueID, fromNickname, replyToID, clientMsgID, bodyEnc,
          keyID, sentAt := now })

/-- Rows changed in place, ids kept. -/
def modify (f : ChatMessage → ChatMessage) (hid : ∀ m, (f m).id = m.id) : ChatStore where
  messages := st.messages.map f
  nextID := st.nextID
  reactions := st.reactions
  pins := st.pins
  newestFirst := by
    rw [map_map]
    convert st.newestFirst using 2
    exact funext hid
  fresh := by
    intro m hm
    obtain ⟨row, hrow, rfl⟩ := mem_map.mp hm
    rw [hid]
    exact st.fresh row hrow

/-- Does the `WHERE` of an edit match the row? Version 0 matches every version. -/
def editMatches (id : Int) (expectedVersion : Nat) (m : ChatMessage) : Bool :=
  m.id == id && m.deletedAt.isNone && (expectedVersion == 0 || m.version == expectedVersion)

/-- Replace the ciphertext; the new version, none for `ErrChatEditConflict`.
Source: `EditChatMessage` -/
def editChatMessage (now id : Int) (bodyEnc : String) (keyID expectedVersion : Nat) :
    Option (Nat × ChatStore) :=
  (st.messages.find? (editMatches id expectedVersion)).map fun row =>
    (row.version + 1,
      st.modify
        (fun m => if editMatches id expectedVersion m then
          { m with bodyEnc, keyID, editedAt := some now, version := m.version + 1 } else m)
        (fun m => by split_ifs <;> rfl))

/-- Source: `ChatPins` -/
def chatPins (channelID : Int) : List (Pin × Option ChatMessage) :=
  (st.pins.filter fun p => p.channelID == channelID).map fun p => (p, st.getChatMessage p.messageID)

/-- Source: `PinChatMessage` -/
def pinChatMessage (now channelID messageID : Int) (pinnedBy : String) : ChatStore :=
  if st.pins.any fun p => p.channelID == channelID && p.messageID == messageID then st
  else { st with pins := st.pins ++ [⟨channelID, messageID, pinnedBy, now⟩] }

/-- Source: `UnpinChatMessage` -/
def unpinChatMessage (channelID messageID : Int) : ChatStore :=
  { st with pins := st.pins.filter fun p => !(p.channelID == channelID && p.messageID == messageID) }

/-- The reactions to a message, counted by emoji.
Source: `queryReactions` -/
def queryReactions (messageID : Int) : List (String × Nat) :=
  let emojis := (st.reactions.filter fun r => r.messageID == messageID).map Reaction.emoji
  emojis.dedup.map fun e => (e, emojis.count e)

/-- Add the reaction if it is absent, remove it if it is there. The new counts, and whether it was
added.
Source: `ToggleReaction` -/
def toggleReaction (messageID : Int) (uniqueID emoji : String) :
    (List (String × Nat) × Bool) × ChatStore :=
  let r : Reaction := ⟨messageID, uniqueID, emoji⟩
  let added := !st.reactions.contains r
  let st := { st with reactions := if added then r :: st.reactions else st.reactions.erase r }
  ((st.queryReactions messageID, added), st)

/-! ## Scopes -/

/-- The id is that of a message stored in the scope. -/
def InScope (scope id : Int) : Prop :=
  ∃ m ∈ st.messages, m.id = id ∧ m.channelID = scope

instance (st : ChatStore) (scope id : Int) : Decidable (st.InScope scope id) :=
  inferInstanceAs (Decidable (∃ m ∈ st.messages, m.id = id ∧ m.channelID = scope))

/-- The rows of a scope: its messages, the reactions to them, its pins. -/
def rowsOf (scope : Int) : List ChatMessage × List Reaction × List Pin :=
  (st.messages.filter fun m => m.channelID == scope,
    st.reactions.filter fun r => decide (st.InScope scope r.messageID),
    st.pins.filter fun p => p.channelID == scope)

section ids

variable {st : ChatStore} {m : ChatMessage} {id : Int}

/-- Two rows with one id are one row. -/
lemma eq_of_id_eq {n : ChatMessage} (hm : m ∈ st.messages) (hn : n ∈ st.messages)
    (hid : m.id = n.id) : m = n := by
  have hinj : (st.messages.map ChatMessage.id).Nodup := st.newestFirst.imp fun h => ne_of_gt h
  exact inj_on_of_nodup_map hinj hm hn hid

/-- A message is found by its id. -/
theorem getChatMessage_eq_some_iff :
    st.getChatMessage id = some m ↔ m ∈ st.messages ∧ m.id = id := by
  constructor
  · intro h
    exact ⟨mem_of_find?_eq_some h, by simpa using List.find?_some h⟩
  rintro ⟨hm, rfl⟩
  cases h : st.getChatMessage m.id with
  | none => simpa using List.find?_eq_none.mp h m hm
  | some n =>
    have hn : n.id = m.id := by simpa using List.find?_some h
    exact congrArg some (eq_of_id_eq (mem_of_find?_eq_some h) hm hn)

lemma inScope_iff {scope : Int} :
    st.InScope scope id ↔ ∃ m, st.getChatMessage id = some m ∧ m.channelID = scope := by
  constructor
  · rintro ⟨m, hm, hid, hscope⟩
    exact ⟨m, getChatMessage_eq_some_iff.mpr ⟨hm, hid⟩, hscope⟩
  · rintro ⟨m, hm, hscope⟩
    obtain ⟨hm, hid⟩ := getChatMessage_eq_some_iff.mp hm
    exact ⟨m, hm, hid, hscope⟩

/-- An edit finds its row exactly when the row is there, is not deleted and has the version. -/
lemma editChatMessage_isSome_iff {now : Int} {bodyEnc : String} {keyID expectedVersion : Nat} :
    (st.editChatMessage now id bodyEnc keyID expectedVersion).isSome = true ↔
      ∃ m, st.getChatMessage id = some m ∧ m.deletedAt = none ∧
        (expectedVersion = 0 ∨ m.version = expectedVersion) := by
  simp only [editChatMessage, Option.isSome_map, List.find?_isSome, editMatches, Bool.and_eq_true,
    beq_iff_eq, Option.isNone_iff_eq_none, Bool.or_eq_true, getChatMessage_eq_some_iff]
  constructor
  · rintro ⟨m, hm, ⟨hid, hlive⟩, hversion⟩
    exact ⟨m, ⟨hm, hid⟩, hlive, hversion⟩
  · rintro ⟨m, ⟨hm, hid⟩, hlive, hversion⟩
    exact ⟨m, hm, ⟨hid, hlive⟩, hversion⟩

/-- A page of a scope has rows of that scope only. -/
lemma mem_chatHistory {channelID beforeID limit : Int}
    (h : m ∈ st.chatHistory channelID beforeID limit) :
    m ∈ st.messages ∧ m.channelID = channelID := by
  obtain ⟨hm, hscope⟩ := mem_filter.mp (mem_of_mem_take h)
  rw [Bool.and_eq_true] at hscope
  exact ⟨hm, by simpa using hscope.1⟩

end ids

end ChatStore

end Voicx.Chat
