import Voicx.Chat.Store
import Voicx.Found.FiniteMap
import Voicx.Found.KeyedList
import Voicx.Found.RowLocks

/-!
# Reaction counts and their cache

`internal/store/chat.go` toggles a reaction in a transaction that takes an advisory lock for the
reaction, deletes or inserts its row, and counts the reactions to the message before it commits. The
counts are then put into a cache of the process, from which `Reactions` and `ReactionsFor` answer
for thirty seconds; a miss is answered by a query, whose counts are cached too.

* `countsOf`, `toggled` — the counts of a message, and a table with a reaction toggled.
* `Toggle`, `toggles` — the transaction, as a `Protocol` with one lock for a reaction;
  `next_next_eq_toggleReaction` — alone it is the query of the store's model.
* `CacheEntry`, `cacheReactions`, `pruneReactionCache` — the cache.
* `Tail`, `Reader` — what a toggle does after its commit, and a call that reads counts.
* `Process`, `Process.step` — a process with its cache, and the database with its versions. Toggles
  of other processes commit to the same database.

Source names without a file are from `internal/store/chat.go`.
-/

namespace Voicx.Chat

open Found Protocol Function

/-! ## Counts and toggles -/

/-- The reactions to a message, counted by emoji. -/
abbrev Counts := List (String × Nat)

variable (reactions : List Reaction)

/-- Source: `queryReactions` -/
def countsOf (messageID : Int) : Counts :=
  let emojis := (reactions.filter fun r => r.messageID == messageID).map Reaction.emoji
  emojis.dedup.map fun e => (e, emojis.count e)

/-- The table with a reaction removed or added. -/
def toggled (r : Reaction) (added : Bool) : List Reaction :=
  if added then r :: reactions else reactions.erase r

/-- The rows of a query written into a map of counts. -/
def writeCounts (counts rows : Counts) : Counts := rows.foldl (upsert Prod.fst) counts

/-- Where the transaction of a toggle is. -/
inductive ToggleStage
  | start
  | written (added : Bool)
  | counted (added : Bool) (counts : Counts)
  deriving DecidableEq, Repr

/-- A call of `ToggleReaction`, by this process or by another one. -/
structure Toggle where
  reaction : Reaction
  here : Bool := true
  stage : ToggleStage := .start
  deriving DecidableEq, Repr

/-- The table as the transaction sees it. -/
def Toggle.view (t : Toggle) (reactions : List Reaction) : List Reaction :=
  match t.stage with
  | .start => reactions
  | .written added | .counted added _ => toggled reactions t.reaction added

/-- The statements: the lock with the delete or insert, and the count.
Source: `ToggleReaction` -/
def Toggle.next (t : Toggle) : Toggle :=
  match t.stage with
  | .start => { t with stage := .written (!reactions.contains t.reaction) }
  | .written added =>
    { t with stage := .counted added (countsOf (t.view reactions) t.reaction.messageID) }
  | .counted _ _ => t

/-- The transactions. The advisory lock is taken for the reaction, so a row of the protocol is a
reaction. -/
def toggles : Protocol (List Reaction) Reaction Toggle Unit where
  initial _ t := t.stage == .start
  rows _ _ _ t := match t.stage with
    | .start => [t.reaction]
    | _ => []
  next reactions _ _ t := some (t.next reactions)
  done t := match t.stage with
    | .counted _ _ => true
    | _ => false
  commit := Toggle.view

/-- A transaction that runs alone is the query `toggleReaction`: it counts and commits what that
returns. -/
theorem next_next_eq_toggleReaction (st : ChatStore) (r : Reaction) (here : Bool) :
    let t : Toggle := ({ reaction := r, here } : Toggle).next st.reactions
    let result := st.toggleReaction r.messageID r.uniqueID r.emoji
    (t.next st.reactions).stage = .counted result.1.2 result.1.1 ∧
      (t.next st.reactions).view st.reactions = result.2.reactions := ⟨rfl, rfl⟩

/-! ## The cache -/

/-- Source: `reactionCacheEntry` -/
structure CacheEntry where
  counts : Counts
  expiresAt : Int
  deriving DecidableEq, Repr

/-- Thirty seconds, in nanoseconds.
Source: `reactionCacheTTL` -/
def reactionCacheTTL : Int := 30 * 1000000000

/-- Source: `maxReactionCacheEntries` -/
def maxReactionCacheEntries : ℕ := 10000

/-- The second loop of the pruning: delete entries until few enough are left. -/
def evictUntilSmall : List Int → FMap Int CacheEntry → FMap Int CacheEntry
  | [], cache => cache
  | key :: order, cache =>
    if FMap.len (cache.erase key) > maxReactionCacheEntries then
      evictUntilSmall order (cache.erase key)
    else cache.erase key

/-- A full cache first loses what has expired, then whatever `Range` visits; `order` is the order of
its visit.
Source: `pruneReactionCacheLocked` -/
def pruneReactionCache (now : Int) (order : List Int) (cache : FMap Int CacheEntry) :
    FMap Int CacheEntry :=
  if cache.len ≤ maxReactionCacheEntries then cache
  else
    let live := cache.filter fun _ e => decide (now < e.expiresAt)
    if live.len ≤ maxReactionCacheEntries then live else evictUntilSmall order live

/-- Source: `cacheReactions` -/
def cacheReactions (now : Int) (order : List Int) (messageID : Int) (counts : Counts)
    (cache : FMap Int CacheEntry) : FMap Int CacheEntry :=
  pruneReactionCache now order
    (cache.insert messageID { counts, expiresAt := now + reactionCacheTTL })

/-! ## Calls -/

/-- What a toggle of this process still does after its commit: drop the entry, then store its
counts. `version` is the version of the database that its commit made. -/
structure Tail where
  messageID : Int
  counts : Counts
  version : ℕ
  invalidated : Bool := false
  deriving DecidableEq, Repr

/-- Where a reading call is. A miss whose entry has expired deletes the entry under the lock, after
it has looked at it without. -/
inductive ReadStage
  | lookup (pending missing : List Int)
  | expire (messageID : Int) (pending missing : List Int)
  | query (missing : List Int)
  /-- `version` is the version that was queried -/
  | store (version : ℕ) (rest : List Int)
  deriving DecidableEq, Repr

/-- A call of `ReactionsFor`, or of `Reactions` for one message. `floor` is what the call must not
go back behind: for each message, the last commit of a toggle that had returned when the call
started. -/
structure Reader where
  floor : Int → ℕ
  out : Int → Option Counts := fun _ => none
  stage : ReadStage

/-- What a toggle returned, with the version of its commit. -/
structure ToggleReturn where
  messageID : Int
  counts : Counts
  version : ℕ
  deriving DecidableEq, Repr

/-- What a reading call returned. -/
structure ReadReturn where
  floor : Int → ℕ
  out : Int → Option Counts

/-- A process, and the database it shares with others. `states` are the versions of the table by
number; `floor` is, for each message, the last commit of a toggle of this process that has returned.
The returns are only written, never read by a step. -/
structure Process where
  db : System (List Reaction) Reaction Toggle
  version : ℕ
  states : ℕ → List Reaction
  cache : FMap Int CacheEntry
  tails : ℕ → Option Tail
  readers : ℕ → Option Reader
  floor : Int → ℕ
  toggleReturns : List ToggleReturn
  readReturns : List ReadReturn

/-- A process that has just started, on a table. -/
def Process.init (reactions : List Reaction) : Process where
  db := System.idle reactions
  version := 0
  states := fun _ => reactions
  cache := ∅
  tails := fun _ => none
  readers := fun _ => none
  floor := fun _ => 0
  toggleReturns := []
  readReturns := []

/-- One step of a call. Clocks and visiting orders are arbitrary. -/
inductive ReactionEvent
  | begin (i : ℕ) (r : Reaction) (here : Bool)
  | statement (i : ℕ)
  | rollback (i : ℕ)
  /-- `reported` says whether the call learns of its commit -/
  | commit (i : ℕ) (reported : Bool)
  | invalidate (i : ℕ)
  | store (i : ℕ) (now : Int) (order : List Int)
  | read (j : ℕ) (ids : List Int)
  /-- the next step of a reading call; `ok` says whether a query succeeds -/
  | readStep (j : ℕ) (now : Int) (order : List Int) (ok : Bool)

namespace Process

variable (s : Process)

/-- A commit makes a new version. A toggle of this process goes on with the cache; one of another
process returns. -/
def commitToggle (i : ℕ) (reported : Bool) (t : Toggle) (counts : Counts) : Process :=
  let db := toggles.step s.db (.commit i)
  let messageID := t.reaction.messageID
  { s with
    db
    version := s.version + 1
    states := update s.states (s.version + 1) db.store
    tails := if reported && t.here then
        update s.tails i (some { messageID, counts, version := s.version + 1 })
      else s.tails
    toggleReturns := if reported && !t.here then
        s.toggleReturns ++ [{ messageID, counts, version := s.version + 1 }]
      else s.toggleReturns }

/-- The toggle stores its counts and returns. -/
def storeTail (i : ℕ) (now : Int) (order : List Int) (tail : Tail) : Process :=
  { s with
    cache := cacheReactions now order tail.messageID tail.counts s.cache
    tails := update s.tails i none
    floor := update s.floor tail.messageID
      (max (s.floor tail.messageID) tail.version)
    toggleReturns := s.toggleReturns ++
      [{ messageID := tail.messageID, counts := tail.counts, version := tail.version }] }

variable (j : ℕ)

/-- A reading call goes on, or returns. -/
def setReader (r : Reader) : Process :=
  { s with readers := update s.readers j (some r) }

def returnReader (r : Reader) : Process :=
  { s with
    readers := update s.readers j none
    readReturns := s.readReturns ++ [{ floor := r.floor, out := r.out }] }

/-- The call finds no counts for a message in the cache. -/
def missCached (r : Reader) (id : Int) (pending missing : List Int) : Process :=
  s.setReader j { r with
    out := update r.out id (some [])
    stage := .lookup pending (missing ++ [id]) }

/-- Source: `cachedReactions`

Fidelity: an entry is looked up and read in one step. The clock is arbitrary, so an entry that the
source sees half written, with no expiry yet, is one that has expired here. -/
def lookupCached (now : Int) (r : Reader) (id : Int) (pending missing : List Int) : Process :=
  match s.cache.lookup id with
  | none => s.missCached j r id pending missing
  | some e =>
    if e.expiresAt ≤ now then s.setReader j { r with stage := .expire id pending missing }
    else s.setReader j { r with
      out := update r.out id (some e.counts)
      stage := .lookup pending missing }

/-- The query for the missing messages. Its rows are written into what is there for the message:
into an empty map, unless the call asks for a message twice. -/
def queryMissing (ok : Bool) (r : Reader) (missing : List Int) : Process :=
  if ok then
    s.setReader j { r with
      out := fun id => if id ∈ missing then
          (r.out id).map fun counts => writeCounts counts (countsOf s.db.store id)
        else r.out id
      stage := .store s.version missing }
  else { s with readers := update s.readers j none }

/-- Source: `ReactionsFor`, `Reactions` -/
def stepReader (now : Int) (order : List Int) (ok : Bool) (r : Reader) : Process :=
  match r.stage with
  | .lookup (id :: pending) missing => s.lookupCached j now r id pending missing
  | .lookup [] [] => s.returnReader j r
  | .lookup [] missing => s.setReader j { r with stage := .query missing }
  | .expire id pending missing =>
    { s with cache := s.cache.erase id }.missCached j r id pending missing
  | .query missing => s.queryMissing j ok r missing
  | .store version (id :: rest) =>
    { s with cache := cacheReactions now order id ((r.out id).getD []) s.cache }.setReader j
      { r with stage := .store version rest }
  | .store _ [] => s.returnReader j r

/-- One step. -/
def step : ReactionEvent → Process
  | .begin i r here =>
    if (s.tails i).isNone then { s with db := toggles.step s.db (.start i { reaction := r, here }) }
    else s
  | .statement i => { s with db := toggles.step s.db (.statement i ()) }
  | .rollback i => { s with db := toggles.step s.db (.rollback i) }
  | .commit i reported =>
    match s.db.active i with
    | some t => match t.stage with
        | .counted _ counts => s.commitToggle i reported t counts
        | _ => s
    | none => s
  | .invalidate i =>
    match s.tails i with
    | some tail =>
      { s with
        cache := s.cache.erase tail.messageID
        tails := update s.tails i (some { tail with invalidated := true }) }
    | none => s
  | .store i now order =>
    match s.tails i with
    | some tail => if tail.invalidated then s.storeTail i now order tail else s
    | none => s
  | .read j ids =>
    match s.readers j with
    | some _ => s
    | none => s.setReader j { floor := s.floor, stage := .lookup ids [] }
  | .readStep j now order ok =>
    match s.readers j with
    | some r => s.stepReader j now order ok r
    | none => s

end Process

end Voicx.Chat
