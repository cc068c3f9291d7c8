import Voicx.Server.ChatKeys
import Voicx.Server.Moves
import Voicx.Server.Subscribing

/-!
# Whom a generation is sealed to

Model of the delivery of chat keys (`internal/server/e2e.go`, `channelSubscribers` of
`internal/server/subscriptions.go`, `afterMove` of `moveClient`) as threads whose steps interleave.
Each read of the state, each operation of the key manager and each pass of a loop is a step of its
own.

* `KeyTask`, `KeyThread`, `Handler` — what the threads do. A move holds the lifecycle locks of its
  client and its channels until it is done.
* `perform`, `deliveryStep` — one step of one thread.
* `reader` — a member of the channel, or a subscriber that is entitled to it.
* `SealedToReaders` — the property: whoever a generation was sealed to had been a reader after the
  generation was minted.
* `MintsForReaders`, `ChecksHold` — the condition: when a generation is minted, those waiting for a
  delivery of the channel are readers; a subscriber whose right is found to hold is a subscriber
  still.
* `sealed_to_readers` — in every run whose steps meet the condition the property holds throughout.
-/

namespace Voicx.Server

open Found State Permissions List Manager

/-! ## Threads -/

/-- What a thread does next. -/
inductive KeyTask
  /-- `MoveClientWithLifecycle`: lock and move; `afterMove` follows, still under the locks -/
  | move (clientID : String) (channelID : Int)
  | unlock
  /-- `LeaveClient` -/
  | leave (clientID : String)
  | unregister (clientID : String)
  /-- `RemoveClient`, then `onDisconnect` goes on without a lock -/
  | remove (clientID : String)
  /-- `doRotateScopeKey`: mint, read the members, read the subscribers -/
  | rotate (channelID : Int)
  | readMembers (channelID : Int)
  | readSubscribers (channelID : Int)
  /-- the loops of `channelSubscribers`: who is still to be checked, who was entitled, who was
  not -/
  | checkSubscribers (channelID : Int) (todo out revoked : List String)
  /-- `deliverScopeKey`: read the client, ensure the scope, seal -/
  | deliver (clientID : String) (scope : Int)
  | ensure (clientID : String) (scope : Int)
  | sealFor (clientID : String) (scope : Int) (gen : Nat)
  /-- `handleKeyPublish`, and its second read of the client -/
  | publish (clientID publicKey : String)
  | readChannel (clientID : String)
  /-- `handleChatKeyRequest`: read the client, then the three reads of `scopeReadable` -/
  | request (clientID : String) (scope : Int) (keyIDs : List Nat)
  | requestChannel (clientID : String) (scope : Int) (keyIDs : List Nat)
  | requestSubscribed (clientID : String) (scope : Int) (keyIDs : List Nat)
  | requestAllowed (clientID : String) (scope : Int) (keyIDs : List Nat)
  /-- a message is sent in the clear: the scope gets its first generation -/
  | ensureScope (scope : Int)
  deriving DecidableEq, Repr

open KeyTask

/-- A thread: what it has to do, and the lifecycle locks it holds. -/
structure KeyThread where
  tasks : List KeyTask
  client : Option String := none
  channels : List Int := []
  deriving DecidableEq, Repr

/-- What starts a thread. -/
inductive Handler
  | move (clientID : String) (channelID : Int)
  | kick (clientID : String)
  | disconnect (clientID : String)
  | keyPublish (clientID publicKey : String)
  | chatKeyRequest (clientID : String) (channelID : Int) (keyIDs : List Nat)
  | chatSend (channelID : Int)
  deriving DecidableEq, Repr

def Handler.tasks : Handler → List KeyTask
  | .move clientID channelID => [.move clientID channelID]
  | .kick clientID => [.leave clientID]
  | .disconnect clientID => [.unregister clientID, .remove clientID]
  | .keyPublish clientID publicKey => [.publish clientID publicKey]
  | .chatKeyRequest clientID channelID keyIDs => [.request clientID channelID keyIDs]
  | .chatSend channelID => [.ensureScope channelID]

/-- `doRotateScopeKey`; the global scope is not rotated. -/
def rotation (channelID : Int) : List KeyTask :=
  if channelID = 0 then []
  else [.rotate channelID, .readMembers channelID, .readSubscribers channelID]

/-- A generation sealed to a client. `readAt` is the last moment until then at which the client was
a reader of the scope. -/
structure Sealing where
  clientID : String
  scope : Int
  gen : Nat
  readAt : Option Nat
  deriving DecidableEq, Repr

structure DeliveryState where
  world : World
  keys : ChatKeyManager
  clock : Nat
  threads : List KeyThread
  sealed : List Sealing
  /-- the last moment at which a client was a reader of a channel -/
  lastRead : String → Int → Option Nat

/-- What the environment decides in a step: whether the database answers, and the order in which a
loop goes over a map. -/
structure Oracle where
  loads : Bool := true
  order : List String := []
  deriving DecidableEq, Repr

inductive DeliveryStep
  | start (h : Handler)
  /-- the thread at this position takes its next step -/
  | run (n : Nat) (o : Oracle)
  /-- anything else, by the world it leaves -/
  | other (w' : World)

/-! ## Readers -/

section reader

variable (cfg : Config) (w : World)

/-- `IsSubscribed` and `subscribeAllowed`. -/
def entitledSubscriber (clientID : String) (channelID : Int) : Bool :=
  decide (channelID ∈ w.state.subs.elems clientID) &&
    (w.sessions.lookup clientID).any fun s =>
      subscribeAllowed cfg.guestGroupID w.db true (w.caller clientID s) channelID

/-- A member of the channel, or an entitled subscriber. -/
def reader (clientID : String) (channelID : Int) : Bool :=
  decide (w.MemberOf clientID channelID) || entitledSubscriber cfg w clientID channelID

end reader

/-! ## One step of one thread -/

/-- What a step of a thread leaves: the world, the key manager, the tasks that come next, the locks
the thread holds from now on, and what was sealed. -/
structure Outcome where
  world : World
  keys : ChatKeyManager
  follow : List KeyTask := []
  locks : Option (Option String × List Int) := none
  seals : List (String × Int × Nat) := []

namespace DeliveryState

variable (s : DeliveryState)

/-- No thread holds the lifecycle lock of the client or of one of the channels. -/
def unlocked (clientID : String) (channelIDs : List Int) : Bool :=
  s.threads.all fun t =>
    t.client != some clientID && channelIDs.all fun ch => decide (ch ≤ 0) || !t.channels.contains ch

/-- The channel a client stands in, 0 for none. -/
def channelOf (clientID : String) : Int :=
  (s.world.state.chanOf clientID).getD 0

/-- A step that only goes on. -/
def goOn (follow : List KeyTask) : Option Outcome :=
  some { world := s.world, keys := s.keys, follow := follow }

/-- The clients of a set that are live, in the order the environment chose. -/
def listing (o : Oracle) (set : Finset String) : Option (List String) :=
  if o.order.Nodup ∧ o.order.toFinset = set then
    some (o.order.filter fun id => (s.world.state.clients.lookup id).isSome)
  else none

end DeliveryState

open DeliveryState

section perform

variable (cfg : Config) (s : DeliveryState) (o : Oracle)

/-- `subscribeAllowed` for a connected client. -/
def allowed (clientID : String) (channelID : Int) : Bool :=
  (s.world.sessions.lookup clientID).any fun c =>
    subscribeAllowed cfg.guestGroupID s.world.db o.loads (s.world.caller clientID c) channelID

/-- One task. No outcome means that the thread waits for a lock. -/
def perform : KeyTask → Option Outcome
  | .move clientID channelID =>
    if s.unlocked clientID [s.channelOf clientID, channelID] then
      match s.world.moveClient clientID channelID with
      | .error _ => s.goOn []
      | .ok w' =>
        some
          { world := w'
            keys := s.keys
            follow := (if s.channelOf clientID = channelID then []
              else rotation (s.channelOf clientID)) ++ [.deliver clientID channelID, .unlock]
            locks := some (some clientID, [s.channelOf clientID, channelID]) }
    else none
  | .unlock => some { world := s.world, keys := s.keys, locks := some (none, []) }
  | .leave clientID =>
    if s.unlocked clientID [s.channelOf clientID] then
      some { world := { s.world with state := s.world.state.step (.leaveChannel clientID) },
             keys := s.keys }
    else none
  | .unregister clientID =>
    some { world := { s.world with sessions := s.world.sessions.erase clientID }, keys := s.keys }
  | .remove clientID =>
    if s.unlocked clientID [s.channelOf clientID] then
      some { world := { s.world with state := s.world.state.step (.removeClient clientID) },
             keys := s.keys, follow := rotation (s.channelOf clientID) }
    else none
  | .rotate channelID =>
    some { world := s.world, keys := (s.keys.rotate s.clock channelID).2 }
  | .readMembers channelID =>
    (s.listing o (s.world.state.membership.elems channelID)).bind fun ids =>
      s.goOn (ids.map fun id => .deliver id channelID)
  | .readSubscribers channelID =>
    if channelID = 0 then s.goOn []
    else (s.listing o (s.world.state.subsByChannel.elems channelID)).bind fun ids =>
      s.goOn [.checkSubscribers channelID
        (ids.filter fun id => s.channelOf id != channelID) [] []]
  | .checkSubscribers channelID (id :: todo) out revoked =>
    match s.world.sessions.lookup id with
    | none => s.goOn [.checkSubscribers channelID todo out revoked]
    | some _ =>
      if allowed cfg s o id channelID then
        s.goOn [.checkSubscribers channelID todo (out ++ [id]) revoked]
      else s.goOn [.checkSubscribers channelID todo out (revoked ++ [id])]
  | .checkSubscribers channelID [] out (id :: revoked) =>
    some { world := { s.world with state := s.world.state.step (.unsubscribe id [channelID]) },
           keys := s.keys, follow := [.checkSubscribers channelID [] out revoked] }
  | .checkSubscribers channelID [] out [] => s.goOn (out.map fun id => .deliver id channelID)
  | .deliver clientID scope =>
    match s.world.sessions.lookup clientID, s.world.state.getClient clientID with
    | some _, some c => s.goOn (if c.e2ePublicKey = "" then [] else [.ensure clientID scope])
    | _, _ => s.goOn []
  | .ensure clientID scope =>
    some { world := s.world, keys := (s.keys.ensureScope s.clock scope).2,
           follow := [.sealFor clientID scope (s.keys.ensureScope s.clock scope).1] }
  | .sealFor clientID scope gen =>
    some { world := s.world, keys := (s.keys.atGeneration scope gen).2,
           seals := if (s.keys.atGeneration scope gen).1 then [(clientID, scope, gen)] else [] }
  | .publish clientID publicKey =>
    some
      { world :=
          { s.world with state := s.world.state.step (.setE2EPublicKey clientID publicKey) }
        keys := s.keys
        follow := [.deliver clientID 0, .readChannel clientID] }
  | .readChannel clientID =>
    s.goOn (if s.channelOf clientID = 0 then [] else [.deliver clientID (s.channelOf clientID)])
  | .request clientID scope keyIDs =>
    if keyIDs.length = 0 ∨ keyIDs.length > 64 then s.goOn []
    else match s.world.state.getClient clientID with
      | none => s.goOn []
      | some c =>
        s.goOn (if c.e2ePublicKey = "" then [] else [.requestChannel clientID scope keyIDs])
  | .requestChannel clientID scope keyIDs =>
    if scope = 0 then s.goOn (keyIDs.map fun gen => .sealFor clientID scope gen)
    else match s.world.state.chanOf clientID with
      | none => s.goOn []
      | some ch =>
        s.goOn (if ch = scope then keyIDs.map fun gen => .sealFor clientID scope gen
          else [.requestSubscribed clientID scope keyIDs])
  | .requestSubscribed clientID scope keyIDs =>
    s.goOn (if scope ∈ s.world.state.subs.elems clientID then
      [.requestAllowed clientID scope keyIDs] else [])
  | .requestAllowed clientID scope keyIDs =>
    s.goOn (if allowed cfg s o clientID scope then
      keyIDs.map fun gen => .sealFor clientID scope gen else [])
  | .ensureScope scope =>
    some { world := s.world, keys := (s.keys.ensureScope s.clock scope).2 }

end perform

/-! ## Runs -/

/-- The thread after a step: new tasks before the rest, new locks if they changed. -/
def KeyThread.after (t : KeyThread) (out : Outcome) (rest : List KeyTask) : KeyThread where
  tasks := out.follow ++ rest
  client := (out.locks.map Prod.fst).getD t.client
  channels := (out.locks.map Prod.snd).getD t.channels

variable (s : DeliveryState) (cfg : Config)

/-- Time passes; whoever is a reader now was one at this moment. -/
def DeliveryState.advance (s : DeliveryState) (world : World) (keys : ChatKeyManager)
    (threads : List KeyThread) (seals : List (String × Int × Nat)) : DeliveryState where
  world := world
  keys := keys
  clock := s.clock + 1
  threads := threads
  sealed := seals.map (fun e => ⟨e.1, e.2.1, e.2.2, s.lastRead e.1 e.2.1⟩) ++ s.sealed
  lastRead := fun clientID channelID =>
    if reader cfg world clientID channelID then some (s.clock + 1)
    else s.lastRead clientID channelID

/-- One step. A thread that has nothing to do or waits for a lock does nothing. -/
def deliveryStep (s : DeliveryState) : DeliveryStep → DeliveryState
  | .start h => s.advance cfg s.world s.keys (s.threads ++ [{ tasks := h.tasks }]) []
  | .run n o =>
    match s.threads[n]? with
    | none => s
    | some t =>
      match t.tasks with
      | [] => s
      | task :: rest =>
        match perform cfg s o task with
        | none => s
        | some out =>
          s.advance cfg out.world out.keys (s.threads.set n (t.after out rest)) out.seals
  | .other w' => s.advance cfg w' s.keys s.threads []

/-- The server with nothing under way. -/
def DeliveryState.idle (world : World) (keys : ChatKeyManager) (clock : Nat) : DeliveryState where
  world := world
  keys := keys
  clock := clock
  threads := []
  sealed := []
  lastRead := fun clientID channelID =>
    if reader cfg world clientID channelID then some clock else none

/-! ## The property and the condition -/

/-- Whoever a generation of a channel was sealed to was a reader after it was minted. -/
def SealedToReaders : Prop :=
  ∀ e ∈ s.sealed, e.scope ≠ 0 →
    ∃ born t, s.keys.ledger.born e.scope e.gen = some born ∧ e.readAt = some t ∧ born < t

/-- The clients a task is going to seal this generation of the scope to, once it is minted: those
with a delivery ahead, which takes whatever generation is live then, and those that asked for it by
its id. -/
def KeyTask.awaiting (scope : Int) (gen : Nat) : KeyTask → List String
  | .deliver clientID scope' | .ensure clientID scope' => if scope' = scope then [clientID] else []
  | .checkSubscribers scope' _ out _ => if scope' = scope then out else []
  | .sealFor clientID scope' gen' => if scope' = scope ∧ gen' = gen then [clientID] else []
  | _ => []

/-- The generation a task mints. -/
def KeyTask.mints : KeyTask → Option (Int × Nat)
  | .rotate scope => some (scope, (s.keys.rotate s.clock scope).1)
  | .ensure _ scope | .ensureScope scope =>
    if (s.keys.current scope).1 = none then some (scope, (s.keys.ensureScope s.clock scope).1)
    else none
  | _ => none

/-- The subscription whose right a task looks up, the subscription itself having been read
before. -/
def KeyTask.checks : KeyTask → Option (String × Int)
  | .checkSubscribers channelID (id :: _) _ _ => some (id, channelID)
  | .requestAllowed clientID scope _ => some (clientID, scope)
  | _ => none

section condition

variable (cfg : Config) (s : DeliveryState) (o : Oracle)

/-- When a generation of a channel is minted, everybody who waits for a delivery is a reader. -/
def MintsForReaders (task : KeyTask) : Prop :=
  match task.mints s with
  | none => True
  | some (scope, gen) =>
    scope = 0 ∨ ∀ t ∈ s.threads, ∀ task' ∈ t.tasks, ∀ id ∈ task'.awaiting scope gen,
      reader cfg s.world id scope = true

/-- A client whose right to a subscription is found to hold is still a reader. -/
def ChecksHold (task : KeyTask) : Prop :=
  match task.checks with
  | none => True
  | some (id, channelID) =>
    allowed cfg s o id channelID = true → reader cfg s.world id channelID = true

instance (task : KeyTask) : Decidable (MintsForReaders cfg s task) :=
  match h : task.mints s with
  | none => .isTrue (by rw [MintsForReaders, h]; trivial)
  | some (scope, gen) =>
    decidable_of_iff (scope = 0 ∨ ∀ t ∈ s.threads, ∀ task' ∈ t.tasks,
      ∀ id ∈ task'.awaiting scope gen, reader cfg s.world id scope = true)
      (by rw [MintsForReaders, h])

instance (task : KeyTask) : Decidable (ChecksHold cfg s o task) :=
  match h : task.checks with
  | none => .isTrue (by rw [ChecksHold, h]; trivial)
  | some (id, channelID) =>
    decidable_of_iff (allowed cfg s o id channelID = true →
      reader cfg s.world id channelID = true) (by rw [ChecksHold, h])

/-- The next task of a thread. -/
def DeliveryState.nextTask (n : Nat) : Option KeyTask :=
  (s.threads[n]?).bind fun t => t.tasks.head?

/-- The condition of a step. -/
def ReadersWait : DeliveryStep → Prop
  | .run n o => ∀ task ∈ s.nextTask n, MintsForReaders cfg s task ∧ ChecksHold cfg s o task
  | _ => True

/-- The task moves a client into channel 0, which is none. -/
def KeyTask.entersLobby : KeyTask → Bool
  | .move _ channelID => decide (channelID = 0)
  | _ => false

/-- No move goes to channel 0, and steps other than those listed keep the manager coherent. -/
def DeliveryDomain : DeliveryStep → Prop
  | .run n _ => ∀ task ∈ s.nextTask n, task.entersLobby = false
  | .other w' => w'.state.Coherent
  | _ => True

instance (n : Nat) : Decidable (ReadersWait cfg s (.run n o)) :=
  inferInstanceAs (Decidable (∀ task ∈ s.nextTask n, _))

instance (n : Nat) : Decidable (DeliveryDomain s (.run n o)) :=
  inferInstanceAs (Decidable (∀ task ∈ s.nextTask n, _))

end condition

/-! ## The invariant -/

/-- The client was a reader of the scope after every moment this generation was minted at. -/
def ReadSince (clientID : String) (scope : Int) (gen : Nat) : Prop :=
  ∀ born, s.keys.ledger.born scope gen = some born →
    ∃ t, s.lastRead clientID scope = some t ∧ born < t

structure DeliveryInv (cfg : Config) (s : DeliveryState) : Prop where
  keys : KeysOK s.keys
  coherent : s.world.state.Coherent
  born : ∀ scope gen t, s.keys.ledger.born scope gen = some t → t < s.clock
  /-- readers are readers now -/
  now : ∀ id scope, reader cfg s.world id scope = true → s.lastRead id scope = some s.clock
  past : ∀ id scope t, s.lastRead id scope = some t → t ≤ s.clock
  /-- whoever is waited for has been a reader -/
  owed : ∀ t ∈ s.threads, ∀ task ∈ t.tasks, ∀ scope gen, scope ≠ 0 →
    ∀ id ∈ task.awaiting scope gen, ReadSince s id scope gen
  sealed : SealedToReaders s

lemma deliveryInv_idle (cfg : Config) {world : World} {keys : ChatKeyManager} {clock : Nat}
    (hkeys : KeysOK keys) (hcoherent : world.state.Coherent)
    (hborn : ∀ scope gen t, keys.ledger.born scope gen = some t → t < clock) :
    DeliveryInv cfg (idle cfg world keys clock) where
  keys := hkeys
  coherent := hcoherent
  born := hborn
  now id scope h := if_pos h
  past id scope t h := by
    simp only [idle] at h ⊢
    split_ifs at h
    exact (Option.some.inj h).ge
  owed t h := absurd h not_mem_nil
  sealed e h := absurd h not_mem_nil

section advance

variable {cfg : Config} {s : DeliveryState} {world : World} {keys : ChatKeyManager}
  {threads : List KeyThread} {seals : List (String × Int × Nat)} {scope : Int} {gen : Nat}

/-- Who was a reader before a step was one after it, no earlier. -/
lemma DeliveryInv.lastRead_advance (h : DeliveryInv cfg s) {id : String} {t : Nat}
    (ht : s.lastRead id scope = some t) :
    ∃ t', (s.advance cfg world keys threads seals).lastRead id scope = some t' ∧ t ≤ t' := by
  by_cases hread : reader cfg world id scope = true
  · exact ⟨s.clock + 1, if_pos hread, Nat.le_succ_of_le (h.past id scope t ht)⟩
  · exact ⟨t, by simpa [advance, hread] using ht, le_rfl⟩

/-- What a step mints, if anything: a generation for readers. -/
def MintOnly (cfg : Config) (s : DeliveryState) (world : World) (keys : ChatKeyManager) : Prop :=
  keys.ledger = s.keys.ledger ∨
    ∃ scope gen, s.keys.ledger.born scope gen = none ∧
      keys.ledger = s.keys.ledger.mint s.clock scope gen ∧ world = s.world ∧
      (scope ≠ 0 → ∀ t ∈ s.threads, ∀ task ∈ t.tasks, ∀ id ∈ task.awaiting scope gen,
        reader cfg s.world id scope = true)

/-- Everything minted is in the past. -/
lemma MintOnly.born_lt (hmint : MintOnly cfg s world keys) (h : DeliveryInv cfg s) {t : Nat}
    (ht : keys.ledger.born scope gen = some t) : t < s.clock + 1 := by
  rcases hmint with hsame | ⟨scope', gen', -, hledger, -, -⟩
  · exact Nat.lt_succ_of_lt (h.born scope gen t (hsame ▸ ht))
  · exact KeyLedger.born_mint_lt h.born (hledger ▸ ht)

/-- What was minted before stays in the ledger. -/
lemma MintOnly.born_eq (hmint : MintOnly cfg s world keys) {t : Nat}
    (ht : s.keys.ledger.born scope gen = some t) : keys.ledger.born scope gen = some t := by
  rcases hmint with hsame | ⟨scope', gen', hfresh, hledger, -, -⟩
  · exact hsame ▸ ht
  · rw [hledger, KeyLedger.born_mint, if_neg]
    · exact ht
    · rintro ⟨rfl, rfl⟩
      rw [hfresh] at ht
      cases ht

/-- Who is waited for before a step has been a reader of the generation after it. -/
lemma DeliveryInv.readSince_advance (h : DeliveryInv cfg s) (hmint : MintOnly cfg s world keys)
    {t : KeyThread} (ht : t ∈ s.threads) {task : KeyTask} (htask : task ∈ t.tasks)
    (hscope : scope ≠ 0) {id : String} (hid : id ∈ task.awaiting scope gen) :
    ReadSince (s.advance cfg world keys threads seals) id scope gen := by
  intro born hborn
  have hold : s.keys.ledger.born scope gen = some born →
      ∃ t', (s.advance cfg world keys threads seals).lastRead id scope = some t' ∧ born < t' := by
    intro hborn
    obtain ⟨t₀, ht₀, hlt⟩ := h.owed t ht task htask scope gen hscope id hid born hborn
    obtain ⟨t', ht', hle⟩ := h.lastRead_advance ht₀
    exact ⟨t', ht', hlt.trans_le hle⟩
  have hborn : keys.ledger.born scope gen = some born := hborn
  rcases hmint with hsame | ⟨scope', gen', -, hledger, hworld, hreaders⟩
  · exact hold (hsame ▸ hborn)
  rw [hledger, KeyLedger.born_mint] at hborn
  split_ifs at hborn with heq
  · -- the generation of this very step: minted for readers
    obtain ⟨rfl, rfl⟩ := heq
    cases hborn
    have hread := hreaders hscope t ht task htask id hid
    exact ⟨s.clock + 1, if_pos (hworld ▸ hread), Nat.lt_succ_self _⟩
  · exact hold hborn

/-- **What a step has to keep.** It mints for readers only, the tasks it adds are for clients that
were waited for before or are readers now, and it seals to those that were waited for. -/
theorem DeliveryInv.advance (h : DeliveryInv cfg s) (hkeys : KeysOK keys)
    (hcoherent : world.state.Coherent) (hmint : MintOnly cfg s world keys)
    (htasks : ∀ t ∈ threads, ∀ task ∈ t.tasks, ∀ scope gen, scope ≠ 0 →
      ∀ id ∈ task.awaiting scope gen, reader cfg world id scope = true ∨
        ∃ t' ∈ s.threads, ∃ task' ∈ t'.tasks, id ∈ task'.awaiting scope gen)
    (hseals : ∀ e ∈ seals, (s.keys.ledger.born e.2.1 e.2.2).isSome = true ∧
      ∃ t' ∈ s.threads, ∃ task' ∈ t'.tasks, e.1 ∈ task'.awaiting e.2.1 e.2.2) :
    DeliveryInv cfg (s.advance cfg world keys threads seals) where
  keys := hkeys
  coherent := hcoherent
  born scope gen t ht := hmint.born_lt h ht
  now id scope hread := if_pos hread
  past id scope t ht := by
    simp only [DeliveryState.advance] at ht ⊢
    split_ifs at ht
    · exact (Option.some.inj ht).ge
    · exact Nat.le_succ_of_le (h.past id scope t ht)
  owed t ht task htask scope gen hscope id hid := by
    rcases htasks t ht task htask scope gen hscope id hid with
      hread | ⟨t', ht', task', htask', hid'⟩
    · intro born hborn
      exact ⟨s.clock + 1, if_pos hread, hmint.born_lt h hborn⟩
    · exact h.readSince_advance hmint ht' htask' hscope hid'
  sealed e he hscope := by
    rcases mem_append.mp he with hnew | hold
    · obtain ⟨e', he', rfl⟩ := mem_map.mp hnew
      obtain ⟨hsome, t', ht', task', htask', hid⟩ := hseals e' he'
      obtain ⟨born, hborn⟩ := Option.isSome_iff_exists.mp hsome
      obtain ⟨t, ht, hlt⟩ := h.owed t' ht' task' htask' _ _ hscope _ hid born hborn
      exact ⟨born, t, hmint.born_eq hborn, ht, hlt⟩
    · obtain ⟨born, t, hborn, ht, hlt⟩ := h.sealed e hold hscope
      exact ⟨born, t, hmint.born_eq hborn, ht, hlt⟩

end advance

/-! ## Every task -/

section perform

variable {cfg : Config} {s : DeliveryState} {o : Oracle}

/-- The tasks that follow wait for readers, and for clients the task has waited for. -/
def FollowOK (cfg : Config) (w : World) (task : KeyTask) (follow : List KeyTask) : Prop :=
  ∀ task' ∈ follow, ∀ scope gen, scope ≠ 0 → ∀ id ∈ task'.awaiting scope gen,
    reader cfg w id scope = true ∨ id ∈ task.awaiting scope gen

/-- What the outcome of a task has to satisfy. -/
structure OutcomeOK (cfg : Config) (s : DeliveryState) (task : KeyTask) (out : Outcome) : Prop where
  keys : KeysOK out.keys
  coherent : out.world.state.Coherent
  mint : out.keys.ledger = s.keys.ledger ∨
    ∃ scope gen, task.mints s = some (scope, gen) ∧ s.keys.ledger.born scope gen = none ∧
      out.keys.ledger = s.keys.ledger.mint s.clock scope gen ∧ out.world = s.world
  follow : FollowOK cfg out.world task out.follow
  seals : ∀ e ∈ out.seals, (s.keys.ledger.born e.2.1 e.2.2).isSome = true ∧
    e.1 ∈ task.awaiting e.2.1 e.2.2

variable {w : World} {id clientID : String} {channelID scope scope' : Int} {task : KeyTask}
  {follow : List KeyTask} {gen : Nat} {keyIDs : List Nat}

/-- Every outcome of the task is as it has to be. -/
def Keeps (cfg : Config) (s : DeliveryState) (o : Oracle) (task : KeyTask) : Prop :=
  ∀ ⦃out⦄, perform cfg s o task = some out → OutcomeOK cfg s task out

/-- A member is a reader. -/
lemma reader_of_memberOf (h : w.MemberOf id channelID) : reader cfg w id channelID = true := by
  simp [reader, h]

/-- Where the manager is coherent, a client reads the channel it stands in. -/
lemma reader_of_chanOf (hcoherent : w.state.Coherent) (hzero : channelID ≠ 0)
    (h : w.state.chanOf id = some channelID) : reader cfg w id channelID = true :=
  reader_of_memberOf ((hcoherent.mem_iff id channelID).mpr ⟨hzero, h⟩)

/-- A task that only goes on. -/
lemma DeliveryInv.goOn (h : DeliveryInv cfg s) (hfollow : FollowOK cfg s.world task follow)
    {out : Outcome} (hout : s.goOn follow = some out) : OutcomeOK cfg s task out := by
  cases hout
  exact ⟨h.keys, h.coherent, .inl rfl, hfollow, forall_mem_nil _⟩

/-- A task that ends here. -/
theorem DeliveryInv.stop (h : DeliveryInv cfg s) {out : Outcome} (hout : s.goOn [] = some out) :
    OutcomeOK cfg s task out :=
  h.goOn (forall_mem_nil _) hout

/-- A task that changes the state only. -/
lemma DeliveryInv.changeState (h : DeliveryInv cfg s) {out : Outcome} (hkeys : out.keys = s.keys)
    (hcoherent : out.world.state.Coherent) (hseals : out.seals = [])
    (hfollow : FollowOK cfg out.world task out.follow) : OutcomeOK cfg s task out := by
  refine ⟨hkeys ▸ h.keys, hcoherent, .inl (by rw [hkeys]), hfollow, fun e he => ?_⟩
  rw [hseals] at he
  exact absurd he not_mem_nil

/-- Nobody waits for a task that awaits nobody. -/
lemma follow_of_awaiting_nil (h : ∀ task' ∈ follow, ∀ scope gen, task'.awaiting scope gen = []) :
    FollowOK cfg w task follow := by
  intro task' htask' scope gen _ id hid
  rw [h task' htask' scope gen] at hid
  exact absurd hid not_mem_nil

lemma awaiting_rotation (channelID : Int) :
    ∀ task ∈ rotation channelID, ∀ scope gen, task.awaiting scope gen = [] := by
  intro task htask scope gen
  unfold rotation at htask
  split_ifs at htask
  · exact absurd htask not_mem_nil
  · simp only [mem_cons, not_mem_nil, or_false] at htask
    rcases htask with rfl | rfl | rfl <;> rfl

lemma mem_awaiting_deliver :
    id ∈ (deliver clientID scope').awaiting scope gen ↔ scope' = scope ∧ id = clientID := by
  simp [awaiting]

lemma mem_awaiting_ensure :
    id ∈ (ensure clientID scope').awaiting scope gen ↔ scope' = scope ∧ id = clientID := by
  simp [awaiting]

lemma mem_awaiting_sealFor {gen' : Nat} :
    id ∈ (sealFor clientID scope' gen').awaiting scope gen ↔
      (scope' = scope ∧ gen' = gen) ∧ id = clientID := by
  simp [awaiting]

lemma mem_awaiting_checkSubscribers {todo out revoked : List String} :
    id ∈ (checkSubscribers scope' todo out revoked).awaiting scope gen ↔
      scope' = scope ∧ id ∈ out := by
  simp [awaiting]

/-- The generations a client asked for, if it is a reader. -/
lemma sealFor_of_reader (hread : scope ≠ 0 → reader cfg s.world clientID scope = true) :
    FollowOK cfg s.world task (keyIDs.map fun gen => .sealFor clientID scope gen) := by
  intro task' htask' scope' gen hscope id hid
  obtain ⟨gen', -, rfl⟩ := mem_map.mp htask'
  obtain ⟨⟨rfl, -⟩, rfl⟩ := mem_awaiting_sealFor.mp hid
  exact .inl (hread hscope)

variable (h : DeliveryInv cfg s)

include h

/-- A move delivers the key of the channel the client has just entered. -/
lemma DeliveryInv.perform_move (hzero : channelID ≠ 0) :
    Keeps cfg s o (.move clientID channelID) := by
  intro out hout
  by_cases hfree : s.unlocked clientID [s.channelOf clientID, channelID] = true
  swap
  · simp [perform, hfree] at hout
  simp only [perform, hfree, if_true] at hout
  cases hm : s.world.moveClient clientID channelID with
  | error e =>
    simp only [hm] at hout
    exact h.stop hout
  | ok w' =>
    simp only [hm, Option.some.injEq] at hout
    subst hout
    have hstate := (moveClient_ok hm).2.2
    have hcoherent : w'.state.Coherent := by
      have hstep : (s.world.state.step (.moveClient clientID channelID)).Coherent :=
        h.coherent.moveClient fun h0 => absurd h0.1 hzero
      simpa [step, orSame, hstate] using hstep
    have hin : reader cfg w' clientID channelID = true := by
      apply reader_of_chanOf hcoherent hzero
      obtain ⟨c, hc, -, ⟨hch, hsame⟩ | ⟨-, -, hchan⟩⟩ := moveClient_spec hstate
      · rw [hsame]
        exact chanOf_eq_some.mpr ⟨c, hc, hch⟩
      · rw [hchan, if_pos rfl]
    refine h.changeState rfl hcoherent rfl fun task' htask' scope gen _ id hid => ?_
    simp only [mem_append, mem_cons, not_mem_nil, or_false] at htask'
    rcases htask' with hrot | rfl | rfl
    · split_ifs at hrot
      · exact absurd hrot not_mem_nil
      · rw [awaiting_rotation _ task' hrot] at hid
        exact absurd hid not_mem_nil
    · obtain ⟨rfl, rfl⟩ := mem_awaiting_deliver.mp hid
      exact .inl hin
    · exact absurd hid not_mem_nil

/-- The members that were read are members. -/
lemma DeliveryInv.perform_readMembers : Keeps cfg s o (.readMembers channelID) := by
  intro out hout
  simp only [perform, listing] at hout
  split_ifs at hout with horder
  · refine h.goOn (fun task' htask' scope gen _ id hid => ?_) hout
    obtain ⟨id', hid', rfl⟩ := mem_map.mp htask'
    obtain ⟨rfl, rfl⟩ := mem_awaiting_deliver.mp hid
    have hmem : id ∈ o.order.toFinset := mem_toFinset.mpr (mem_of_mem_filter hid')
    rw [horder.2] at hmem
    exact .inl (reader_of_memberOf hmem)
  · simp at hout

/-- The subscribers found entitled are readers still, by the condition. -/
lemma DeliveryInv.perform_checkSubscribers {todo found revoked : List String}
    (hok : ChecksHold cfg s o (.checkSubscribers channelID todo found revoked)) :
    Keeps cfg s o (.checkSubscribers channelID todo found revoked) := by
  intro out hout
  have hkeep : ∀ {w : World} {todo' found' revoked' : List String},
      (∀ id ∈ found', id ∈ found ∨ reader cfg w id channelID = true) →
      FollowOK cfg w (.checkSubscribers channelID todo found revoked)
        [.checkSubscribers channelID todo' found' revoked'] := by
    intro w todo' found' revoked' hfound task' htask' scope gen _ id hid
    cases mem_singleton.mp htask'
    obtain ⟨rfl, hin⟩ := mem_awaiting_checkSubscribers.mp hid
    rcases hfound id hin with hold | hread
    · exact .inr (mem_awaiting_checkSubscribers.mpr ⟨rfl, hold⟩)
    · exact .inl hread
  cases todo with
  | cons id todo =>
    simp only [perform] at hout
    cases hs : s.world.sessions.lookup id with
    | none =>
      simp only [hs] at hout
      exact h.goOn (hkeep fun _ hid => .inl hid) hout
    | some c =>
      simp only [hs] at hout
      split_ifs at hout with hallowed
      · refine h.goOn (hkeep fun id' hid' => ?_) hout
        rcases mem_append.mp hid' with hold | hnew
        · exact .inl hold
        · cases mem_singleton.mp hnew
          exact .inr (hok hallowed)
      · exact h.goOn (hkeep fun _ hid => .inl hid) hout
  | nil =>
    cases revoked with
    | cons id revoked =>
      simp only [perform, Option.some.injEq] at hout
      subst hout
      refine h.changeState rfl ?_ rfl (hkeep fun _ hid => .inl hid)
      exact h.coherent.step (.unsubscribe id [channelID]) trivial trivial
    | nil =>
      refine h.goOn (fun task' htask' scope gen _ id hid => ?_) hout
      obtain ⟨id', hid', rfl⟩ := mem_map.mp htask'
      obtain ⟨rfl, rfl⟩ := mem_awaiting_deliver.mp hid
      exact .inr (mem_awaiting_checkSubscribers.mpr ⟨rfl, hid'⟩)

/-- The delivery takes the generation that is live at this moment. -/
lemma DeliveryInv.perform_ensure (hmints : task.mints s = if (s.keys.current scope).1 = none then
      some (scope, (s.keys.ensureScope s.clock scope).1) else none)
    (hfollow : FollowOK cfg s.world task follow) :
    OutcomeOK cfg s task
      { world := s.world, keys := (s.keys.ensureScope s.clock scope).2, follow := follow } := by
  obtain ⟨hkeys, ⟨-, hledger⟩ | ⟨hlive, hfresh, hledger⟩⟩ := h.keys.ensureScope s.clock scope
  · exact ⟨hkeys, h.coherent, .inl hledger, hfollow, forall_mem_nil _⟩
  · have hnone : (s.keys.current scope).1 = none := by rw [(h.keys.current scope).2.1, hlive]
    refine ⟨hkeys, h.coherent, .inr ⟨scope, _, ?_, hfresh, hledger, rfl⟩, hfollow, forall_mem_nil _⟩
    rw [hmints, if_pos hnone]

/-- A generation is sealed to whom it was picked for, if it exists. -/
lemma DeliveryInv.perform_sealFor : Keeps cfg s o (.sealFor clientID scope gen) := by
  intro out hout
  simp only [perform, Option.some.injEq] at hout
  subst hout
  obtain ⟨hkeys, hat, hledger⟩ := h.keys.atGeneration scope gen
  refine ⟨hkeys, h.coherent, .inl hledger, forall_mem_nil _, ?_⟩
  intro e he
  split_ifs at he with hfound
  · cases mem_singleton.mp he
    exact ⟨hat.mp hfound, mem_awaiting_sealFor.mpr ⟨⟨rfl, rfl⟩, rfl⟩⟩
  · exact absurd he not_mem_nil

/-- The reads of `scopeReadable` that follow the first end in a seal for a reader only. -/
lemma DeliveryInv.perform_requestChannel :
    Keeps cfg s o (.requestChannel clientID scope keyIDs) := by
  intro out hout
  by_cases hscope : scope = 0
  · subst hscope
    exact h.goOn (sealFor_of_reader fun hne => absurd rfl hne) hout
  simp only [perform, hscope, if_false] at hout
  cases hch : s.world.state.chanOf clientID with
  | none =>
    simp only [hch] at hout
    exact h.stop hout
  | some ch =>
    simp only [hch] at hout
    by_cases hsame : ch = scope
    · rw [if_pos hsame] at hout
      refine h.goOn (sealFor_of_reader fun hne => ?_) hout
      exact reader_of_chanOf h.coherent hne (hsame ▸ hch)
    · rw [if_neg hsame] at hout
      refine h.goOn (follow_of_awaiting_nil fun task' htask' scope gen => ?_) hout
      cases mem_singleton.mp htask'
      rfl

/-- The subscribers that were read are still to be checked. -/
lemma DeliveryInv.perform_readSubscribers : Keeps cfg s o (.readSubscribers channelID) := by
  intro out hout
  simp only [perform, listing] at hout
  split_ifs at hout
  · exact h.stop hout
  · refine h.goOn (follow_of_awaiting_nil ?_) hout
    exact forall_mem_singleton.mpr fun scope gen => by simp [awaiting]
  · simp at hout

/-- A client that is still there and has a key goes on waiting. -/
lemma DeliveryInv.perform_deliver : Keeps cfg s o (.deliver clientID scope) := by
  intro out hout
  simp only [perform] at hout
  split at hout
  · split_ifs at hout
    · exact h.stop hout
    · refine h.goOn (forall_mem_singleton.mpr fun scope' gen _ id hid => ?_) hout
      exact .inr (mem_awaiting_deliver.mpr (mem_awaiting_ensure.mp hid))
  · exact h.stop hout

/-- A published key is answered with the key of the channel the client stands in. -/
lemma DeliveryInv.perform_readChannel : Keeps cfg s o (.readChannel clientID) := by
  intro out hout
  simp only [perform] at hout
  split_ifs at hout with hlobby
  · exact h.stop hout
  refine h.goOn (forall_mem_singleton.mpr fun scope gen hscope id hid => ?_) hout
  obtain ⟨rfl, rfl⟩ := mem_awaiting_deliver.mp hid
  refine .inl (reader_of_chanOf h.coherent hscope ?_)
  unfold channelOf at hlobby ⊢
  cases hch : s.world.state.chanOf id with
  | none => simp [hch] at hlobby
  | some ch => rfl

lemma DeliveryInv.perform_request : Keeps cfg s o (.request clientID scope keyIDs) := by
  intro out hout
  simp only [perform] at hout
  split_ifs at hout
  · exact h.stop hout
  · split at hout
    · exact h.stop hout
    · split_ifs at hout
      · exact h.stop hout
      · exact h.goOn (forall_mem_singleton.mpr fun _ _ _ _ => not_mem_nil.elim) hout

/-- **Every task keeps what is owed.** -/
theorem DeliveryInv.outcome (hzero : task.entersLobby = false) (hok : ChecksHold cfg s o task) :
    Keeps cfg s o task := by
  intro out hout
  cases task with
  | move clientID channelID => exact h.perform_move (by simpa [entersLobby] using hzero) hout
  | unlock =>
    cases hout
    exact h.changeState rfl h.coherent rfl (forall_mem_nil _)
  | leave clientID =>
    simp only [perform] at hout
    split_ifs at hout
    cases hout
    exact h.changeState rfl (h.coherent.leaveChannel clientID) rfl (forall_mem_nil _)
  | unregister clientID =>
    cases hout
    exact h.changeState rfl h.coherent rfl (forall_mem_nil _)
  | remove clientID =>
    simp only [perform] at hout
    split_ifs at hout
    cases hout
    exact h.changeState rfl (h.coherent.removeClient clientID) rfl
      (follow_of_awaiting_nil (awaiting_rotation _))
  | rotate channelID =>
    cases hout
    obtain ⟨hkeys, hfresh, hledger⟩ := h.keys.rotate s.clock channelID
    exact ⟨hkeys, h.coherent, .inr ⟨channelID, _, rfl, hfresh, hledger, rfl⟩,
      forall_mem_nil _, forall_mem_nil _⟩
  | readMembers channelID => exact h.perform_readMembers hout
  | readSubscribers channelID => exact h.perform_readSubscribers hout
  | checkSubscribers channelID todo found revoked => exact h.perform_checkSubscribers hok hout
  | deliver clientID scope => exact h.perform_deliver hout
  | ensure clientID scope =>
    cases hout
    refine h.perform_ensure rfl (forall_mem_singleton.mpr fun scope' gen _ id hid => ?_)
    obtain ⟨⟨rfl, -⟩, rfl⟩ := mem_awaiting_sealFor.mp hid
    exact .inr (mem_awaiting_ensure.mpr ⟨rfl, rfl⟩)
  | sealFor clientID scope gen => exact h.perform_sealFor hout
  | publish clientID publicKey =>
    cases hout
    refine h.changeState rfl (h.coherent.step (.setE2EPublicKey clientID publicKey) trivial trivial)
      rfl fun task' htask' scope gen hscope id hid => ?_
    simp only [mem_cons, not_mem_nil, or_false] at htask'
    rcases htask' with rfl | rfl
    · exact absurd (mem_awaiting_deliver.mp hid).1.symm hscope
    · exact absurd hid not_mem_nil
  | readChannel clientID => exact h.perform_readChannel hout
  | request clientID scope keyIDs => exact h.perform_request hout
  | requestChannel clientID scope keyIDs => exact h.perform_requestChannel hout
  | requestSubscribed clientID scope keyIDs =>
    simp only [perform] at hout
    split_ifs at hout
    · exact h.goOn (forall_mem_singleton.mpr fun _ _ _ _ => not_mem_nil.elim) hout
    · exact h.stop hout
  | requestAllowed clientID scope keyIDs =>
    simp only [perform] at hout
    split_ifs at hout with hallowed
    · exact h.goOn (sealFor_of_reader fun _ => hok hallowed) hout
    · exact h.stop hout
  | ensureScope scope =>
    cases hout
    exact h.perform_ensure rfl (forall_mem_nil _)

end perform

/-! ## Whole runs -/

section runs

variable {cfg : Config} {s : DeliveryState}

/-- Nothing waits for a client before a handler has looked at it. -/
lemma awaiting_handler (hd : Handler) :
    ∀ task ∈ hd.tasks, ∀ scope gen, task.awaiting scope gen = [] := by
  intro task htask scope gen
  cases hd <;> simp only [Handler.tasks, mem_cons, not_mem_nil, or_false] at htask
  case disconnect => rcases htask with rfl | rfl <;> rfl
  all_goals
    subst htask
    rfl

/-- A change of the world leaves what is owed. -/
lemma DeliveryInv.goTo (h : DeliveryInv cfg s) {w' : World} (hcoherent : w'.state.Coherent)
    {threads : List KeyThread} (htasks : ∀ t ∈ threads, t ∈ s.threads ∨
      ∀ task ∈ t.tasks, ∀ scope gen, task.awaiting scope gen = []) :
    DeliveryInv cfg (s.advance cfg w' s.keys threads []) := by
  refine h.advance h.keys hcoherent (.inl rfl) ?_ (forall_mem_nil _)
  intro t ht task htask scope gen _ id hid
  rcases htasks t ht with hold | hnone
  · exact .inr ⟨t, hold, task, htask, hid⟩
  · rw [hnone task htask scope gen] at hid
    exact absurd hid not_mem_nil

/-- The step of a thread, from what its task does. -/
lemma DeliveryInv.runThread (h : DeliveryInv cfg s) {n : Nat} {t : KeyThread} {task : KeyTask}
    {rest : List KeyTask} {out : Outcome} (ht : s.threads[n]? = some t)
    (htasks : t.tasks = task :: rest) (hmints : MintsForReaders cfg s task)
    (hout : OutcomeOK cfg s task out) :
    DeliveryInv cfg (s.advance cfg out.world out.keys (s.threads.set n (t.after out rest))
      out.seals) := by
  have hthread : t ∈ s.threads := mem_of_getElem? ht
  have htask : task ∈ t.tasks := by simp [htasks]
  have hmint : MintOnly cfg s out.world out.keys := by
    rcases hout.mint with hsame | ⟨scope, gen, hgen, hfresh, hledger, hworld⟩
    · exact .inl hsame
    · refine .inr ⟨scope, gen, hfresh, hledger, hworld, fun hscope => ?_⟩
      rw [MintsForReaders, hgen] at hmints
      exact hmints.resolve_left hscope
  refine h.advance hout.keys hout.coherent hmint ?_ fun e he => ?_
  · intro t' ht' task' htask' scope gen hscope id hid
    rcases mem_or_eq_of_mem_set ht' with hold | rfl
    · exact .inr ⟨t', hold, task', htask', hid⟩
    · rcases mem_append.mp htask' with hfollow | hrest
      · refine (hout.follow task' hfollow scope gen hscope id hid).imp_right fun hwait => ?_
        exact ⟨t, hthread, task, htask, hwait⟩
      · exact .inr ⟨t, hthread, task', by simp [htasks, hrest], hid⟩
  · obtain ⟨hborn, hid⟩ := hout.seals e he
    exact ⟨hborn, t, hthread, task, htask, hid⟩

/-- Every step that meets the condition keeps the invariant. -/
theorem DeliveryInv.step (h : DeliveryInv cfg s) {i : DeliveryStep} (hdom : DeliveryDomain s i)
    (hok : ReadersWait cfg s i) : DeliveryInv cfg (deliveryStep cfg s i) := by
  cases i with
  | start hd =>
    refine h.goTo h.coherent fun t ht => ?_
    rcases mem_append.mp ht with hold | hnew
    · exact .inl hold
    · cases mem_singleton.mp hnew
      exact .inr (awaiting_handler hd)
  | run n o =>
    cases ht : s.threads[n]? with
    | none => simpa only [deliveryStep, ht] using h
    | some t =>
      cases htasks : t.tasks with
      | nil => simpa only [deliveryStep, ht, htasks] using h
      | cons task rest =>
        have hnext : s.nextTask n = some task := by
          simp [nextTask, ht, htasks]
        obtain ⟨hmints, hchecks⟩ := hok task hnext
        cases hout : perform cfg s o task with
        | none => simpa only [deliveryStep, ht, htasks, hout] using h
        | some out =>
          have hspec := h.outcome (hdom task hnext) hchecks hout
          simpa only [deliveryStep, ht, htasks, hout] using h.runThread ht htasks hmints hspec
  | other w' => exact h.goTo hdom fun t ht => .inl ht

end runs

/-- **New generations reach readers, as long as only readers wait.** For every interleaving of
moves, kicks, disconnects, rotations, key publications and key requests, from any state with nothing
under way: if at every step that mints a generation of a channel everybody with a delivery ahead is
a reader of it, and every client whose right to a subscription is found to hold is a reader still,
then at every point of the run whoever a generation of a channel was sealed to had been a member or
an entitled subscriber of it after the generation was minted. -/
theorem sealed_to_readers (cfg : Config) (w : World) (keys : ChatKeyManager) (clock : Nat)
    (hkeys : KeysOK keys) (hcoherent : w.state.Coherent)
    (hborn : ∀ scope gen t, keys.ledger.born scope gen = some t → t < clock)
    (is : List DeliveryStep)
    (hdom : StepsOK (deliveryStep cfg) DeliveryDomain (idle cfg w keys clock) is)
    (hok : StepsOK (deliveryStep cfg) (ReadersWait cfg) (idle cfg w keys clock) is) :
    Throughout (deliveryStep cfg) SealedToReaders (idle cfg w keys clock) is := by
  have hinv := deliveryInv_idle cfg hkeys hcoherent hborn
  have hrun : Throughout (deliveryStep cfg) (DeliveryInv cfg) (idle cfg w keys clock) is :=
    throughout_of_stepsOK (fun _ _ h hi => h.step hi.1 hi.2) hinv (hdom.and hok)
  exact hrun.mono fun _ h => h.sealed

/-! ## A rotation overtaken by a move -/

/-- Alice, who has published a key, and Bob in channel 1. -/
def keyedWorld : World where
  state := run step new
    [.addChannel { channelID := 1 }, .addChannel { channelID := 2 },
      .addClient { clientID := "alice" }, .addClient { clientID := "bob" },
      .setE2EPublicKey "alice" "k", .joinChannel "alice" 1, .joinChannel "bob" 1]
  sessions := ((∅ : FMap String Session).insert "alice" { userID := 7, authed := true }).insert "bob"
    { userID := 8, authed := true }
  db := PermDB.empty

def openConfig : Config where
  verifyPassword := fun _ _ => true

def keyedServer : DeliveryState :=
  idle openConfig keyedWorld (ChatKeyManager.fresh KeyStore.empty) 0

/-- Bob disconnects; the rotation this starts delivers the new generation to Alice. -/
def quietRun : List DeliveryStep :=
  [.start (.disconnect "bob"), .run 0 {}, .run 0 {}, .run 0 {}, .run 0 { order := ["alice"] },
    .run 0 {}, .run 0 {}, .run 0 {}]

theorem sealed_to_readers_quiet :
    Throughout (deliveryStep openConfig) SealedToReaders keyedServer quietRun :=
  sealed_to_readers openConfig keyedWorld (ChatKeyManager.fresh KeyStore.empty) 0 keysOK_fresh
    (coherent_throughout _ (by decide) (by decide)).final (fun _ _ _ h => by cases h) quietRun
    ⟨trivial, by decide, by decide, by decide, by decide, by decide, by decide, by decide, trivial⟩
    ⟨trivial, by decide, by decide, by decide, by decide, by decide, by decide, by decide, trivial⟩

/-- Bob disconnects, and the rotation this starts has read the members of channel 1. Alice moves on,
and her move rotates the key once more. The first rotation comes back to its list and delivers. -/
def overtakenRun : List DeliveryStep :=
  [.start (.disconnect "bob"), .run 0 {}, .run 0 {}, .run 0 {}, .run 0 { order := ["alice"] },
    .start (.move "alice" 2), .run 1 {}, .run 1 {}, .run 0 {}, .run 0 {}, .run 0 {}]

/-- **A generation is sealed to a client that left before it was minted.** Generation 2 of channel 1
is minted by Alice's departure, and sealed to Alice. -/
theorem overtaken_rotation_seals_to_ex_member :
    StepsOK (deliveryStep openConfig) DeliveryDomain keyedServer overtakenRun ∧
      (run (deliveryStep openConfig) keyedServer overtakenRun).sealed =
        [{ clientID := "alice", scope := 1, gen := 2, readAt := some 6 }] ∧
      (run (deliveryStep openConfig) keyedServer overtakenRun).keys.ledger.born 1 2 = some 7 ∧
      ¬Throughout (deliveryStep openConfig) SealedToReaders keyedServer overtakenRun := by
  have hsealed : (run (deliveryStep openConfig) keyedServer overtakenRun).sealed =
      [{ clientID := "alice", scope := 1, gen := 2, readAt := some 6 }] := by decide
  have hborn : (run (deliveryStep openConfig) keyedServer overtakenRun).keys.ledger.born 1 2 =
      some 7 := by decide
  refine ⟨⟨trivial, by decide, by decide, by decide, by decide, trivial, by decide, by decide,
    by decide, by decide, by decide, trivial⟩, hsealed, hborn, fun h => ?_⟩
  obtain ⟨born, t, hborn', ht, hlt⟩ := h.final _ (hsealed ▸ mem_singleton_self _) (by decide)
  cases hborn'
  cases ht
  exact absurd hlt (by decide)

end Voicx.Server
