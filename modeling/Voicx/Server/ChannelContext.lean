import Voicx.Server.ChannelRequests

/-!
# Which channel's rights decide a request

A request that acts on a channel it names is decided by what the caller resolves in the channel it
*stands in*: every handler asks `permCheckerFor`, none resolves in the target. Here is what that
means for the rights of one channel: rows and memberships scoped to the caller's channel reach a
decision about any other channel, unless something outranks them.

* `SameOutside` — two databases that differ in the tiers scoped to one channel only.
* `pinnedEntry` — the entries that outrank everything scoped to a channel: the caller's server
  groups and its own client entries; the Guest group for a guest.
* `EntryTest` — a check a handler makes on one right, which some entry passes and some entry fails.
* `ChannelEnv.possible`, `ChannelEnv.tests` — a request is accepted when the rest of the server
  allows it and the caller's entries pass the tests (`accepts_eq`).
* `channel_context_iff` — a decision is the same over all databases that differ in the caller's
  channel only, exactly when the request is refused anyway, a pinned entry fails a test, or every
  right it tests is pinned.
-/

namespace Voicx.Server

open Found State Permissions List FileBackend PermChecker PermDB FileTransfer

/-! ## Databases that differ in one channel -/

/-- The place is scoped to the channel: the channel-specific, channel-client and channel entries. -/
def ScopedTo (channelID : Int) : PermLoc → Prop
  | .clientChannel _ id => id = channelID
  | .channelClient _ id => id = channelID
  | .channel id => id = channelID
  | _ => False

lemma scopedTo_channel (channelID : Int) : ScopedTo channelID (.channel channelID) := rfl

/-- The databases differ in the tiers scoped to the channel only. -/
structure SameOutside (channelID : Int) (db db' : PermDB) : Prop where
  serverGroups : db'.serverGroups = db.serverGroups
  channels : db'.channels = db.channels
  channelGroups : ∀ userID id, id ≠ channelID →
    db'.channelGroups userID id = db.channelGroups userID id
  rows : ∀ row : PermRow, ¬ScopedTo channelID row.loc →
    (row ∈ db'.perms.rows ↔ row ∈ db.perms.rows)

lemma SameOutside.entryAt {channelID : Int} {db db' : PermDB} (h : SameOutside channelID db db')
    {loc : PermLoc} (hloc : ¬ScopedTo channelID loc) (key : String) :
    entryAt db' loc key = entryAt db loc key :=
  entryAt_congr fun e _ => h.rows ⟨loc, e⟩ hloc

/-- Write one entry. -/
def putEntry (loc : PermLoc) (db : PermDB) (e : PermEntry) : PermDB where
  perms := db.perms.put loc e
  serverGroups := db.serverGroups
  channelGroups := db.channelGroups
  channels := db.channels

section writes

variable {channelID : Int} {db db' : PermDB} {loc : PermLoc}

lemma SameOutside.refl (channelID : Int) (db : PermDB) : SameOutside channelID db db :=
  ⟨rfl, rfl, fun _ _ _ => rfl, fun _ _ => Iff.rfl⟩

/-- A write at a place scoped to the channel. -/
lemma SameOutside.putEntry (h : SameOutside channelID db db') (hloc : ScopedTo channelID loc)
    (e : PermEntry) : SameOutside channelID db (putEntry loc db' e) where
  serverGroups := h.serverGroups
  channels := h.channels
  channelGroups := h.channelGroups
  rows row hrow := by
    have hne : row.loc ≠ loc := by
      rintro rfl
      exact hrow hloc
    rw [← h.rows row hrow]
    simp only [Voicx.Server.putEntry, PermRows.mem_put]
    constructor
    · rintro (⟨hmem, -⟩ | rfl)
      · exact hmem
      · exact absurd rfl hne
    · intro hmem
      exact .inl ⟨hmem, fun hslot => hne (Prod.mk.inj hslot).1⟩

lemma SameOutside.foldl_putEntry (hloc : ScopedTo channelID loc) (es : List PermEntry) :
    ∀ {db' : PermDB}, SameOutside channelID db db' →
      SameOutside channelID db (es.foldl (Voicx.Server.putEntry loc) db') := by
  induction es with
  | nil => exact fun h => h
  | cons e es ih => exact fun h => ih (h.putEntry hloc e)

lemma entryAt_putEntry (e : PermEntry) (loc' : PermLoc) (key : String) :
    entryAt (putEntry loc db e) loc' key =
      if loc' = loc ∧ key = e.key then some e.toPermission else entryAt db loc' key :=
  entryAt_put e loc' key

/-- Entries for distinct keys, written one after the other, are all there. -/
lemma entryAt_foldl_putEntry (es : List PermEntry) (hkeys : (es.map PermEntry.key).Nodup)
    {e : PermEntry} (he : e ∈ es) :
    ∀ {db : PermDB}, entryAt (es.foldl (putEntry loc) db) loc e.key = some e.toPermission := by
  have hkeep : ∀ (es : List PermEntry) (db : PermDB) (key : String),
      key ∉ es.map PermEntry.key →
        entryAt (es.foldl (putEntry loc) db) loc key = entryAt db loc key := by
    intro es
    induction es with
    | nil => exact fun _ _ _ => rfl
    | cons e es ih =>
      intro db key hkey
      rw [map_cons, mem_cons, not_or] at hkey
      rw [foldl_cons, ih _ _ hkey.2, entryAt_putEntry, if_neg fun h => hkey.1 h.2]
  induction es with
  | nil => cases he
  | cons e' es ih =>
    intro db
    rw [map_cons, nodup_cons] at hkeys
    rw [foldl_cons]
    rcases mem_cons.mp he with rfl | he
    · rw [hkeep es _ _ hkeys.1, entryAt_putEntry, if_pos ⟨rfl, rfl⟩]
    · exact ih hkeys.2 he

end writes

open SameOutside

/-! ## What outranks a channel -/

/-- The entry that outranks every tier scoped to a channel. -/
def pinnedEntry (guestGroupID : Int) (db : PermDB) (c : Caller) (key : String) : Option Permission :=
  if c.userID = 0 then
    if guestGroupID ≠ 0 then entryAt db (.serverGroup guestGroupID) key else none
  else mergedEntry db ((db.serverGroups c.userID).map .serverGroup) key <|>
    entryAt db (.client c.userID) key

/-- The place right behind the pinned entries. -/
def nextPlace (c : Caller) : PermLoc :=
  if c.userID = 0 then .channel c.channelID else .clientChannel c.userID c.channelID

lemma scopedTo_nextPlace (c : Caller) : ScopedTo c.channelID (nextPlace c) := by
  unfold nextPlace
  split_ifs <;> rfl

section pinned

variable {guestGroupID : Int} {db db' : PermDB} {c : Caller} {key : String}

lemma pinnedEntry_congr (h : SameOutside c.channelID db db') :
    pinnedEntry guestGroupID db' c key = pinnedEntry guestGroupID db c key := by
  have hgroups : mergedEntry db' ((db.serverGroups c.userID).map .serverGroup) key =
      mergedEntry db ((db.serverGroups c.userID).map .serverGroup) key := by
    refine mergedEntry_congr fun loc hloc => h.entryAt ?_ key
    obtain ⟨group, -, rfl⟩ := mem_map.mp hloc
    exact not_false
  have hguests : entryAt db' (.serverGroup guestGroupID) key =
      entryAt db (.serverGroup guestGroupID) key := h.entryAt (by simp [ScopedTo]) key
  have hclient : entryAt db' (.client c.userID) key = entryAt db (.client c.userID) key :=
    h.entryAt (by simp [ScopedTo]) key
  unfold pinnedEntry
  rw [h.serverGroups, hgroups, hguests, hclient]

/-- A pinned entry wins. -/
lemma callerWinner_of_pinned {p : Permission} (h : pinnedEntry guestGroupID db c key = some p) :
    callerWinner guestGroupID db c key = some p := by
  unfold pinnedEntry at h
  unfold callerWinner winner
  split_ifs at h ⊢
  all_goals first
    | rw [h]; rfl
    | rw [← orElse_assoc, h]; rfl

/-- Without a pinned entry, the next place wins where it has one. -/
lemma callerWinner_of_next (hch : c.channelID ≠ 0) {p : Permission}
    (hpinned : pinnedEntry guestGroupID db c key = none) (h : entryAt db (nextPlace c) key = some p) :
    callerWinner guestGroupID db c key = some p := by
  unfold pinnedEntry at hpinned
  unfold nextPlace at h
  unfold callerWinner winner
  by_cases hguest : c.userID = 0
  · rw [if_pos hguest] at hpinned h ⊢
    rw [hpinned, if_pos hch]
    obtain ⟨rest, htier⟩ := channelTierOf_eq_cons db c.channelID
    rw [chainEntry, tierEntry, htier, findSome?_cons_or, h]
    rfl
  · rw [if_neg hguest] at hpinned h ⊢
    rw [← orElse_assoc, hpinned, h]
    rfl

end pinned

/-! ## Tests -/

/-- A check on the entry the caller resolves for one key. Some entry passes it and some entry does
not. -/
structure EntryTest where
  key : String
  test : Option Permission → Bool
  pass : PermEntry
  fail : PermEntry
  pass_key : pass.key = key
  fail_key : fail.key = key
  passes : test (some pass.toPermission.resolved) = true
  fails : test (some fail.toPermission.resolved) = false

namespace EntryTest

/-- The checker passes the test. -/
def holds (t : EntryTest) (pc : PermChecker) : Bool := t.test (pc.own t.key)

variable (key : String)

/-- A test of the value, 0 where none is set. -/
def ofValue (p : Int → Bool) (good bad : Int) (hgood : p good = true) (hbad : p bad = false) :
    EntryTest where
  key := key
  test := fun entry => p ((entry.map Permission.value).getD 0)
  pass := { key := key, value := good }
  fail := { key := key, value := bad }
  pass_key := rfl
  fail_key := rfl
  passes := hgood
  fails := hbad

/-- The test of `granted`. -/
def granted : EntryTest := ofValue key (fun v => v != 0) 1 0 rfl rfl

/-- The test of a power against a needed power. -/
def power (needed : Int) : EntryTest :=
  ofValue key (fun v => decide (v ≥ needed)) needed (needed - 1) (by simp) (by simp)

/-- The test of `notNegated`. -/
def notNegated : EntryTest where
  key := key
  test := fun entry => (entry.map fun p => !p.negate).getD true
  pass := { key := key }
  fail := { key := key, negate := true }
  pass_key := rfl
  fail_key := rfl
  passes := rfl
  fails := rfl

section holds

variable {pc : PermChecker}

lemma holds_granted (hadmin : pc.admin = false) (key : String) :
    (granted key).holds pc = pc.granted key := by
  rw [granted_eq_own, hadmin]
  simp only [holds, granted, ofValue]
  cases pc.own key <;> rfl

lemma holds_power (key : String) (needed : Int) :
    (power key needed).holds pc = decide (pc.power key ≥ needed) := by
  rw [power_eq_own]
  rfl

lemma holds_notNegated (hadmin : pc.admin = false) (key : String) :
    (notNegated key).holds pc = pc.notNegated key := by
  rw [notNegated_eq_own, hadmin]
  rfl

end holds

end EntryTest

open EntryTest

/-! ## Decisions by tests -/

section decision

variable (guestGroupID : Int) (c : Caller) (possible : Bool) (tests : List EntryTest)

/-- A decision: the rest of the server allows it, and the caller's entries pass the tests. -/
def testDecision (db : PermDB) : Bool :=
  possible && tests.all fun t => t.holds (permCheckerFor guestGroupID db c)

/-- The right is pinned: an entry for it outranks every tier scoped to a channel. -/
def Pinned (db : PermDB) (t : EntryTest) : Prop :=
  (pinnedEntry guestGroupID db c t.key).isSome = true

instance (db : PermDB) (t : EntryTest) : Decidable (Pinned guestGroupID c db t) :=
  inferInstanceAs (Decidable (_ = true))

variable {guestGroupID c possible tests} {db db' : PermDB} {t : EntryTest}

lemma holds_of_pinned (h : SameOutside c.channelID db db') (hpinned : Pinned guestGroupID c db t) :
    t.holds (permCheckerFor guestGroupID db' c) = t.holds (permCheckerFor guestGroupID db c) := by
  obtain ⟨p, hp⟩ := Option.isSome_iff_exists.mp hpinned
  unfold holds
  rw [own_permCheckerFor, own_permCheckerFor, callerWinner_of_pinned hp,
    callerWinner_of_pinned ((pinnedEntry_congr h).trans hp)]

/-- Where the right is not pinned, an entry at the next place decides the test. -/
lemma holds_of_entryAt (hch : c.channelID ≠ 0) (h : SameOutside c.channelID db db')
    (hpinned : ¬Pinned guestGroupID c db t) {p : Permission}
    (hp : entryAt db' (nextPlace c) t.key = some p) :
    t.holds (permCheckerFor guestGroupID db' c) = t.test (some p.resolved) := by
  have hnone : pinnedEntry guestGroupID db' c t.key = none := by
    rw [pinnedEntry_congr h]
    simpa [Pinned] using hpinned
  unfold holds
  rw [own_permCheckerFor, callerWinner_of_next hch hnone hp]
  rfl

/-- The database in which every right that is not pinned passes. -/
def grantUnpinned (guestGroupID : Int) (c : Caller) (tests : List EntryTest) (db : PermDB) : PermDB :=
  ((tests.filter fun t => ¬Pinned guestGroupID c db t).map EntryTest.pass).foldl
    (putEntry (nextPlace c)) db

lemma sameOutside_grantUnpinned :
    SameOutside c.channelID db (grantUnpinned guestGroupID c tests db) :=
  (refl c.channelID db).foldl_putEntry (scopedTo_nextPlace c) _

lemma holds_grantUnpinned (hch : c.channelID ≠ 0) (hkeys : (tests.map key).Nodup)
    (ht : t ∈ tests) (hpinned : ¬Pinned guestGroupID c db t) :
    t.holds (permCheckerFor guestGroupID (grantUnpinned guestGroupID c tests db) c) = true := by
  rw [← t.passes]
  refine holds_of_entryAt hch sameOutside_grantUnpinned hpinned ?_
  rw [← t.pass_key]
  apply entryAt_foldl_putEntry
  · rw [map_map]
    have heq : PermEntry.key ∘ pass = key := funext pass_key
    rw [heq]
    exact hkeys.sublist (filter_sublist.map _)
  · exact mem_map_of_mem (mem_filter.mpr ⟨ht, by simpa using hpinned⟩)

/-- A test that fails decides. -/
lemma testDecision_of_fails (ht : t ∈ tests)
    (h : t.holds (permCheckerFor guestGroupID db c) = false) :
    testDecision guestGroupID c possible tests db = false := by
  unfold testDecision
  rw [Bool.and_eq_false_iff]
  right
  rw [all_eq_false]
  exact ⟨t, ht, by simpa using h⟩

/-- With every free right granted the request is accepted, if the pinned ones pass. -/
lemma testDecision_grantUnpinned (hch : c.channelID ≠ 0) (hkeys : (tests.map key).Nodup)
    (hpossible : possible = true) (hpass : ∀ t ∈ tests, Pinned guestGroupID c db t →
      t.holds (permCheckerFor guestGroupID db c) = true) :
    testDecision guestGroupID c possible tests (grantUnpinned guestGroupID c tests db) = true := by
  unfold testDecision
  rw [hpossible, Bool.true_and, all_eq_true]
  intro t ht
  by_cases hpinned : Pinned guestGroupID c db t
  · rw [holds_of_pinned sameOutside_grantUnpinned hpinned]
    exact hpass t ht hpinned
  · exact holds_grantUnpinned hch hkeys ht hpinned

/-- With one free right denied the request is refused. -/
lemma testDecision_putEntry_fail (hch : c.channelID ≠ 0) (ht : t ∈ tests)
    (hfree : ¬Pinned guestGroupID c db t) :
    testDecision guestGroupID c possible tests (putEntry (nextPlace c) db t.fail) = false := by
  apply testDecision_of_fails ht
  rw [← t.fails]
  refine holds_of_entryAt hch ?_ hfree ?_
  · exact (refl c.channelID db).putEntry (scopedTo_nextPlace c) t.fail
  · rw [entryAt_putEntry, if_pos ⟨rfl, t.fail_key.symm⟩]

/-- **When a decision does not depend on the caller's channel.** -/
theorem testDecision_constant_iff (hch : c.channelID ≠ 0) (hkeys : (tests.map key).Nodup) :
    (∀ db', SameOutside c.channelID db db' →
        testDecision guestGroupID c possible tests db' =
          testDecision guestGroupID c possible tests db) ↔
      possible = false ∨
        (∃ t ∈ tests, Pinned guestGroupID c db t ∧
          t.holds (permCheckerFor guestGroupID db c) = false) ∨
        ∀ t ∈ tests, Pinned guestGroupID c db t := by
  constructor
  · intro hconst
    by_contra hnot
    push Not at hnot
    obtain ⟨hpossible, hpass, t, ht, hfree⟩ := hnot
    -- two databases that differ from this one in the caller's channel decide differently
    have haccepted := testDecision_grantUnpinned hch hkeys (Bool.eq_true_of_not_eq_false hpossible)
      fun u hu hpinned => Bool.eq_true_of_not_eq_false (hpass u hu hpinned)
    have hrefused : testDecision guestGroupID c possible tests (putEntry (nextPlace c) db t.fail) =
        false := testDecision_putEntry_fail hch ht hfree
    have hdenied : SameOutside c.channelID db (putEntry (nextPlace c) db t.fail) :=
      (refl c.channelID db).putEntry (scopedTo_nextPlace c) t.fail
    rw [hconst _ sameOutside_grantUnpinned, ← hconst _ hdenied, hrefused] at haccepted
    exact Bool.false_ne_true haccepted
  · rintro (hpossible | ⟨t, ht, hpinned, hfails⟩ | hpinned) db' h
    · rw [testDecision, testDecision, hpossible, Bool.false_and, Bool.false_and]
    · rw [testDecision_of_fails ht hfails, testDecision_of_fails ht]
      rw [holds_of_pinned h hpinned, hfails]
    · unfold testDecision
      congr 1
      rw [Bool.eq_iff_iff, all_eq_true, all_eq_true]
      exact forall₂_congr fun t ht => by rw [holds_of_pinned h (hpinned t ht)]

end decision

/-! ## The requests -/

namespace ChannelEnv

variable (env : ChannelEnv)

/-- Without admin rights a needed join power is not lowered, whoever asks. -/
def keepsJoinPower (channel : Channel) : Option Int → Bool
  | none => true
  | some needed => decide (channel.neededJoinPower ≤ needed)

/-- The password of a join is not asked for, or is right. -/
def passwordMet (channel : Channel) (password : String) : Bool :=
  channel.passwordHash == "" || env.cfg.verifyPassword password channel.passwordHash

/-- Would the request be accepted from a client that passes every test? -/
def possible : ChannelRequest → Bool
  | .deleteChannel channelID => env.loads && (env.deleteSubtree channelID).isOk
  | .channelEdit msg =>
    env.loads && (env.state.getChannel msg.channelID).any fun channel =>
      keepsJoinPower channel msg.fields.neededJoinPower &&
        (Channels.updateChannel env.state env.stored msg.channelID msg.fields).isOk
  | .channelIconSet msg =>
    env.loads && (env.state.getChannel msg.channelID).isSome &&
      (iconImage env.state env.platform env.iconOf msg).toOption.any fun image =>
        (env.writeIcon msg.channelID image).isOk
  | .chatPin msg =>
    env.loads && (applyPin env.chat env.now env.chatReads env.chatWrites env.uniqueID msg).isOk
  | .joinChannel msg =>
    env.loads && !env.session.rulesPending && (env.state.getChannel msg.channelID).isSome &&
      (env.state.moveClient env.clientID msg.channelID).isOk
  | .fileTransferInit msg =>
    env.loads &&
      if msg.direction = "upload" then
        env.session.userID != 0 &&
          (env.files.toUploadEnv.initUpload (msg.upload env.uniqueID) 0).isOk
      else if msg.direction = "download" then
        (env.files.initDownload msg.channelID msg.folder msg.name).isOk
      else false
  | .fileList msg =>
    env.loads && !decide (msg.folder = "" ∧ msg.path ≠ "" ∧ msg.path ≠ "/") &&
      (fileListing env.files msg).isOk
  | .fileDelete msg =>
    env.loads && (env.files.deleteFile msg.channelID msg.folder msg.name).isOk

/-- The test of the upload quota, where a quota can stop the upload at all: one of 1 MiB does. -/
def quotaTests (u : Upload) : List EntryTest :=
  if h : (env.files.checkUploaderQuota u 1).isOk = false then
    [.ofValue ftUploadQuotaMB (fun v => (env.files.checkUploaderQuota u (.ofInt v)).isOk) 0 1 rfl h]
  else []

/-- The tests of a request. -/
def tests : ChannelRequest → List EntryTest
  | .deleteChannel _ => [.granted channelDelete]
  | .channelEdit msg =>
    .granted channelModify ::
      msg.fields.neededJoinPower.toList.map fun needed => .power channelJoinPower needed
  | .channelIconSet _ => [.granted channelModify]
  | .chatPin _ => [.granted channelModify]
  | .joinChannel msg =>
    match env.state.getChannel msg.channelID with
    | none => []
    | some channel =>
      .power channelJoinPower (env.state.effectiveJoinPower channel.channelID) ::
        if env.passwordMet channel msg.password then [] else [.granted channelJoinIgnorePassword]
  | .fileTransferInit msg =>
    if msg.direction = "upload" then
      .notNegated ftFileUploadPower :: env.quotaTests (msg.upload env.uniqueID)
    else [.notNegated ftFileDownloadPower]
  | .fileList _ => [.notNegated ftFileDownloadPower]
  | .fileDelete msg =>
    -- the uploader needs no right
    if (ownerRefusal env.files env.uniqueID msg.channelID msg.folder msg.name).isNone then []
    else [.granted ftFileDelete]

variable {env} {db : PermDB}

lemma nodup_tests (req : ChannelRequest) : ((env.tests req).map key).Nodup := by
  cases req with
  | deleteChannel => exact nodup_singleton _
  | channelEdit msg =>
    rw [tests]
    cases msg.fields.neededJoinPower with
    | none => exact nodup_singleton _
    | some needed =>
      show [channelModify, channelJoinPower].Nodup
      decide
  | channelIconSet | chatPin => exact nodup_singleton _
  | joinChannel msg =>
    rw [tests]
    cases env.state.getChannel msg.channelID with
    | none => exact nodup_nil
    | some channel =>
      dsimp only
      split_ifs
      · exact nodup_singleton _
      · show [channelJoinPower, channelJoinIgnorePassword].Nodup
        decide
  | fileTransferInit msg =>
    rw [tests, quotaTests]
    split_ifs
    · show [ftFileUploadPower, ftUploadQuotaMB].Nodup
      decide
    all_goals exact nodup_singleton _
  | fileList => exact nodup_singleton _
  | fileDelete msg =>
    rw [tests]
    split_ifs
    · exact nodup_nil
    · exact nodup_singleton _

/-! ### A request is accepted when it is possible and the tests hold -/

lemma isOk_requireGranted {α : Type} (pc : Option PermChecker) (key : String)
    (work : Except ErrorReply α) :
    (requireGranted pc key work).isOk = (pc.any (fun pc => pc.granted key) && work.isOk) := by
  unfold requireGranted
  cases pc with
  | none => rfl
  | some pc => cases h : pc.granted key <;> simp [h]

lemma isOk_handleDeleteChannel (pc : Option PermChecker) (outcome : Except ChannelFailure Unit) :
    (handleDeleteChannel pc outcome).isOk =
      (pc.any (fun pc => pc.granted channelDelete) && outcome.isOk) := by
  unfold handleDeleteChannel
  rw [isOk_requireGranted]
  congr 1
  cases outcome with
  | ok => rfl
  | error e => cases e <;> rfl

lemma isOk_handleChannelIconSet (m : Manager) (p : AssetPlatform)
    (iconOf : Int → Option (List UInt8 × ImageFormat))
    (write : List UInt8 × ImageFormat → Except ChannelFailure Unit) (pc : Option PermChecker)
    (msg : ChannelIconSet) :
    (handleChannelIconSet m p iconOf write pc msg).isOk =
      ((m.getChannel msg.channelID).isSome && pc.any (fun pc => pc.granted channelModify) &&
        (iconImage m p iconOf msg).toOption.any fun image => (write image).isOk) := by
  unfold handleChannelIconSet
  cases m.getChannel msg.channelID with
  | none => rfl
  | some channel =>
    rw [isOk_requireGranted]
    congr 1
    cases iconImage m p iconOf msg with
    | error e => rfl
    | ok image =>
      dsimp only [Except.toOption, Option.any]
      cases write image with
      | ok => rfl
      | error e => cases e <;> rfl

variable {pc : PermChecker}

/-- The cap of an edit, apart from whose power it is. -/
lemma joinPowerRefusal_isNone (hadmin : pc.admin = false) (channel : Channel)
    (needed : Option Int) :
    (joinPowerRefusal pc channel needed).isNone =
      (keepsJoinPower channel needed &&
        (needed.toList.map fun n => power channelJoinPower n).all fun t => t.holds pc) := by
  cases needed with
  | none => rfl
  | some needed =>
    simp only [joinPowerRefusal, hadmin, Bool.false_eq_true, if_false, keepsJoinPower,
      Option.toList_some, map_cons, map_nil, all_cons, all_nil,
      holds_power]
    split_ifs with hpower hkeep
    · simp [hpower]
    · simp [hkeep]
    · simp [not_lt.mp hpower, not_lt.mp hkeep]

lemma isOk_handleChannelEdit (hadmin : pc.admin = false) (m : Manager) (stored : Bool)
    (msg : ChannelEdit) :
    (handleChannelEdit m (some pc) stored msg).isOk =
      ((m.getChannel msg.channelID).any (fun channel =>
          keepsJoinPower channel msg.fields.neededJoinPower &&
            (Channels.updateChannel m stored msg.channelID msg.fields).isOk) &&
        (granted channelModify :: msg.fields.neededJoinPower.toList.map fun n =>
          power channelJoinPower n).all fun t => t.holds pc) := by
  rw [all_cons, holds_granted hadmin]
  unfold handleChannelEdit
  cases m.getChannel msg.channelID with
  | none => rfl
  | some channel =>
    have hcap := joinPowerRefusal_isNone hadmin channel msg.fields.neededJoinPower
    dsimp only [Option.any]
    cases pc.granted channelModify with
    | false => simp
    | true =>
      cases hrefusal : joinPowerRefusal pc channel msg.fields.neededJoinPower with
      | some text =>
        cases hkeeps : keepsJoinPower channel msg.fields.neededJoinPower <;>
          simp_all
      | none =>
        cases hupd : Channels.updateChannel m stored msg.channelID msg.fields <;>
          simp_all

lemma isOk_moveUnless (w : World) (refusal : Option ErrorReply) (target : String)
    (channelID : Int) :
    (moveUnless w refusal target channelID).isOk =
      (refusal.isNone && (w.state.moveClient target channelID).isOk) := by
  unfold moveUnless World.moveClient
  cases refusal with
  | some e => rfl
  | none => cases w.state.moveClient target channelID <;> rfl

/-- A password that is not met is ignored by right. -/
lemma passwordOK_eq (hadmin : pc.admin = false) (channel : Channel) (password : String) :
    passwordOK env.cfg pc channel password =
      (if env.passwordMet channel password then []
        else [granted channelJoinIgnorePassword]).all fun t => t.holds pc := by
  unfold passwordOK passwordMet
  rw [← holds_granted hadmin channelJoinIgnorePassword]
  cases channel.passwordHash == "" <;>
    cases env.cfg.verifyPassword password channel.passwordHash <;> simp

/-- The checks of a join, apart from whose rights they are about. -/
lemma joinRefusal_isNone (hadmin : (permCheckerFor env.cfg.guestGroupID db env.caller).admin = false)
    (msg : JoinChannel) :
    (joinRefusal env.cfg (env.world db) env.loads env.clientID env.session msg).isNone =
      (env.loads && !env.session.rulesPending && (env.state.getChannel msg.channelID).isSome &&
        (env.tests (.joinChannel msg)).all fun t =>
          t.holds (permCheckerFor env.cfg.guestGroupID db env.caller)) := by
  unfold joinRefusal
  rw [tests]
  cases env.session.rulesPending with
  | true => simp
  | false =>
    show (match env.state.getChannel msg.channelID with
      | none => _
      | some ch => _ : Option ErrorReply).isNone = _
    cases env.state.getChannel msg.channelID with
    | none => simp
    | some channel =>
      cases env.loads with
      | false => rfl
      | true =>
        have hpc : (env.world db).checker env.cfg env.clientID env.session =
            permCheckerFor env.cfg.guestGroupID db env.caller := rfl
        have hstate : (env.world db).state = env.state := rfl
        simp only [World.loadChecker, if_true, hpc, hstate, joinAllowed, hadmin, holds_power,
          passwordOK_eq hadmin, all_cons, Option.isSome_some, Bool.not_false, Bool.true_and,
          Bool.false_or]
        split_ifs with hpower hpass <;> simp_all

/-- Whether the upload quota stops an upload is what its tests say. -/
lemma all_quotaTests (pc : PermChecker) (u : Upload) :
    ((env.quotaTests u).all fun t => t.holds pc) =
      (env.files.checkUploaderQuota u (.ofInt (pc.power ftUploadQuotaMB))).isOk := by
  unfold quotaTests
  split_ifs with hone
  · rw [power_eq_own]
    simp [holds, ofValue]
  · rw [UploadEnv.checkUploaderQuota_of_one (Bool.eq_true_of_not_eq_false hone)]
    rfl

lemma isOk_answered {α : Type} (code : ErrCode) (label : String) (r : Except String α) :
    (answered code label r).isOk = r.isOk := by
  cases r <;> rfl

/-- An upload is admitted if it is without a quota of its own, and its quota allows it. -/
lemma isOk_initUpload (fb : FileBackend) (u : Upload) (quotaMB : Int64) :
    (fb.initUpload u quotaMB).isOk =
      ((fb.toUploadEnv.initUpload u 0).isOk && (fb.checkUploaderQuota u quotaMB).isOk) := by
  have hzero : fb.checkUploaderQuota u 0 = .ok () := rfl
  have hok : (fb.initUpload u quotaMB).isOk = (fb.toUploadEnv.initUpload u quotaMB).isOk := by
    unfold initUpload
    cases fb.toUploadEnv.initUpload u quotaMB <;> rfl
  rw [hok]
  unfold UploadEnv.initUpload
  rw [hzero]
  split_ifs
  all_goals try rfl
  cases fb.checkChannelQuota u with
  | error e => rfl
  | ok _ => cases fb.checkUploaderQuota u quotaMB <;> cases fb.register u.channelID <;> rfl

/-- A guest does not upload; anybody else may, unless denied. -/
lemma ftUploadAllowed_eq (hadmin : pc.admin = false)
    (hguest : pc.guest = decide (env.session.userID = 0)) :
    pc.ftUploadAllowed = (env.session.userID != 0 && (notNegated ftFileUploadPower).holds pc) := by
  rw [holds_notNegated hadmin]
  unfold ftUploadAllowed
  by_cases hzero : env.session.userID = 0 <;> simp [hguest, hzero]

lemma isOk_handleFileTransferInit (hadmin : pc.admin = false)
    (hguest : pc.guest = decide (env.session.userID = 0)) (hloads : env.loads = true)
    (msg : FileTransferInit) :
    (handleFileTransferInit env.files env.uniqueID (some pc) msg).isOk =
      (env.possible (.fileTransferInit msg) &&
        (env.tests (.fileTransferInit msg)).all fun t => t.holds pc) := by
  rw [possible, tests]
  unfold handleFileTransferInit
  rw [hloads, Bool.true_and]
  by_cases hupload : msg.direction = "upload"
  · have hquota : pc.uploadQuotaMB = .ofInt (pc.power ftUploadQuotaMB) := by
      simp [uploadQuotaMB, hadmin]
    simp only [hupload, if_true, all_cons, all_quotaTests]
    rw [ftUploadAllowed_eq hadmin hguest]
    cases hright : env.session.userID != 0 && (notNegated ftFileUploadPower).holds pc with
    | false =>
      rw [Bool.and_eq_false_iff] at hright
      rcases hright with h | h <;> simp [h]
    | true =>
      rw [Bool.and_eq_true] at hright
      rw [if_neg (by decide), isOk_answered, isOk_initUpload, hquota, hright.1, hright.2]
      rfl
  · simp only [hupload, if_false, all_cons, all_nil, Bool.and_true]
    by_cases hdownload : msg.direction = "download"
    · simp only [hdownload, if_true]
      rw [holds_notNegated hadmin, ftDownloadAllowed]
      cases hright : pc.notNegated ftFileDownloadPower with
      | false => simp
      | true => rw [if_neg (by decide), isOk_answered, Bool.and_true]
    · simp [hdownload]

lemma isOk_handleFileList {pc : PermChecker} (hadmin : pc.admin = false) (hloads : env.loads = true)
    (msg : FileList) :
    (handleFileList env.files (some pc) msg).isOk =
      (env.possible (.fileList msg) && (env.tests (.fileList msg)).all fun t => t.holds pc) := by
  rw [possible, tests]
  unfold handleFileList ftDownloadAllowed
  rw [hloads, all_cons, holds_notNegated hadmin]
  by_cases hpath : msg.folder = "" ∧ msg.path ≠ "" ∧ msg.path ≠ "/"
  · simp [hpath]
  · rw [if_neg hpath, decide_eq_false hpath]
    cases hright : pc.notNegated ftFileDownloadPower <;> simp [hright]

lemma isOk_handleFileDelete (hadmin : pc.admin = false) (hloads : env.loads = true)
    (msg : FileDelete) :
    (handleFileDelete env.files env.uniqueID (some pc) msg).isOk =
      (env.possible (.fileDelete msg) && (env.tests (.fileDelete msg)).all fun t => t.holds pc) := by
  rw [possible, tests]
  unfold handleFileDelete fileManageAllowed
  rw [hloads, Bool.true_and]
  dsimp only
  rw [hadmin, Bool.false_or]
  cases hright : pc.granted ftFileDelete with
  | true =>
    simp only [if_true]
    rw [isOk_answered]
    split_ifs <;> simp [holds_granted hadmin, hright]
  | false =>
    simp only [Bool.false_eq_true, if_false]
    cases ownerRefusal env.files env.uniqueID msg.channelID msg.folder msg.name with
    | none =>
      simp only [Option.isNone_none, if_true]
      rw [isOk_answered, all_nil, Bool.and_true]
    | some text => simp [holds_granted hadmin, hright]

/-- **A request is accepted when it is possible and the caller's entries pass its tests.** -/
theorem accepts_eq (hadmin : env.session.isAdmin = false) (db : PermDB) (req : ChannelRequest) :
    env.accepts db req =
      testDecision env.cfg.guestGroupID env.caller (env.possible req) (env.tests req) db := by
  have hpc : (permCheckerFor env.cfg.guestGroupID db env.caller).admin = false := by
    simp [caller, hadmin]
  have hguest : (permCheckerFor env.cfg.guestGroupID db env.caller).guest =
      decide (env.session.userID = 0) := guest_permCheckerFor _ _ _
  unfold testDecision
  cases req with
  | joinChannel msg =>
    rw [accepts, handleJoinChannel, isOk_moveUnless, joinRefusal_isNone hpc]
    exact Bool.and_right_comm _ _ _
  | deleteChannel channelID =>
    rw [accepts, isOk_handleDeleteChannel, possible, tests, checker]
    cases env.loads <;> simp [holds_granted hpc, Bool.and_comm]
  | channelEdit msg =>
    rw [accepts, possible, tests, checker]
    cases env.loads with
    | false =>
      unfold handleChannelEdit
      cases env.state.getChannel msg.channelID <;> rfl
    | true => rw [if_pos rfl, isOk_handleChannelEdit hpc, Bool.true_and]
  | channelIconSet msg =>
    rw [accepts, isOk_handleChannelIconSet, possible, tests, checker]
    cases env.loads with
    | false => simp
    | true => simp [holds_granted hpc, Bool.and_right_comm]
  | chatPin msg =>
    rw [accepts, handleChatPin, isOk_requireGranted, possible, tests, checker]
    cases env.loads <;> simp [holds_granted hpc, Bool.and_comm]
  | fileTransferInit msg =>
    rw [accepts, checker]
    cases hloads : env.loads with
    | false => simp [possible, hloads, handleFileTransferInit]
    | true => exact isOk_handleFileTransferInit hpc hguest hloads msg
  | fileList msg =>
    rw [accepts, checker]
    cases hloads : env.loads with
    | false =>
      rw [if_neg Bool.false_ne_true, handleFileList]
      split_ifs <;> simp [possible, hloads]
    | true => exact isOk_handleFileList hpc hloads msg
  | fileDelete msg =>
    rw [accepts, checker]
    cases hloads : env.loads with
    | false => simp [possible, hloads, handleFileDelete, fileManageAllowed]
    | true => exact isOk_handleFileDelete hpc hloads msg

end ChannelEnv

/-- The rights of the caller's channel do not reach the decision: the request is refused whatever
rights the caller has, or a pinned entry fails one of its tests, or every right it tests is
pinned. -/
def Shielded (env : ChannelEnv) (db : PermDB) (req : ChannelRequest) : Prop :=
  env.possible req = false ∨
    (∃ t ∈ env.tests req, Pinned env.cfg.guestGroupID env.caller db t ∧
      t.holds (permCheckerFor env.cfg.guestGroupID db env.caller) = false) ∨
    ∀ t ∈ env.tests req, Pinned env.cfg.guestGroupID env.caller db t

/-- **When the rights of one channel stay in it.** For every client that is not an admin and stands
in a channel, every request on whatever channel it names, every state of the server and every
permission database: the decision is the same over all databases that differ in the tiers scoped to
the client's own channel only, if and only if the request is shielded. -/
theorem channel_context_iff (env : ChannelEnv) (db : PermDB) (req : ChannelRequest)
    (channelID : Int) (hadmin : env.session.isAdmin = false)
    (hstands : env.state.chanOf env.clientID = some channelID) (hchannel : channelID ≠ 0) :
    (∀ db', SameOutside channelID db db' → env.accepts db' req = env.accepts db req) ↔
      Shielded env db req := by
  have hcaller : env.caller.channelID = channelID := by
    simp [ChannelEnv.caller, hstands]
  simp only [ChannelEnv.accepts_eq hadmin]
  rw [← hcaller] at hchannel ⊢
  exact testDecision_constant_iff hchannel (ChannelEnv.nodup_tests req)

/-- Bob in channel 1; every backend answers. -/
def bobInOne : ChannelEnv where
  cfg := { verifyPassword := fun _ _ => false }
  state := run Manager.step Manager.new
    [.addChannel { channelID := 1 }, .addChannel { channelID := 2, neededJoinPower := 10 },
      .addClient { clientID := "bob" }, .joinChannel "bob" 1]
  sessions := (∅ : FMap String Session).insert "bob" { userID := 8, authed := true }
  clientID := "bob"
  uniqueID := "bob-id"
  session := { userID := 8, authed := true }
  deleteSubtree := fun _ => .ok ()
  platform :=
    { isLocal := fun _ => true, inspect := fun _ => some .png, decodeBase64 := fun _ => some [1] }
  iconOf := fun _ => none
  writeIcon := fun _ _ => .ok ()
  chat :=
    { messages := [], nextID := 1, reactions := [], pins := [], newestFirst := List.Pairwise.nil,
      fresh := by simp }
  files :=
    { maxSizeMB := 0
      channelQuotaMB := 0
      channelFileUsage := fun _ => some 0
      uploaderFileUsage := fun _ => some 0
      sanitizeName := fun _ => true
      sanitizeFolder := fun _ => true
      randomHex := some ("id", "token")
      deleted := fun _ => false
      getFile := fun _ _ _ => .ok { name := "plan.txt" }
      listFiles := fun _ _ => some [{ name := "plan.txt", uploader := "alice-id" }]
      listFileFolders := fun _ => some []
      deleteFile := fun _ _ _ => .ok () }

/-- Bob's server group gives him the right to delete channels. -/
def groupDeletes : PermDB :=
  { PermDB.empty with
    perms := PermRows.empty.put (.serverGroup 3) { key := channelDelete, value := 1 }
    serverGroups := fun _ => [3] }

/-- A right of the server group is the same in every channel. -/
theorem channel_context_iff_group :
    bobInOne.accepts (putEntry (.channel 1) groupDeletes { key := channelDelete, value := 0 })
      (.deleteChannel 2) = bobInOne.accepts groupDeletes (.deleteChannel 2) := by
  refine (channel_context_iff bobInOne groupDeletes (.deleteChannel 2) 1 rfl (by decide)
    (by decide)).mpr (.inr (.inr ?_)) _
    ((refl 1 groupDeletes).putEntry (scopedTo_channel 1) _)
  intro t ht
  rw [mem_singleton.mp ht]
  decide

/-- The rights channel 1 gives everyone in it. -/
def channelOneRights : List PermEntry :=
  [{ key := channelDelete, value := 1 }, { key := channelModify, value := 1 },
    { key := channelJoinPower, value := 10 }, { key := ftFileDelete, value := 1 },
    { key := ftFileDownloadPower, negate := true }, { key := ftFileUploadPower, negate := true }]

/-- **The rights of one channel act on another.** Two databases differ in what channel 1 gives those
who stand in it. Over the one Bob, who stands in it, may not delete, edit, join or decorate channel
2, change its pins or remove files of others there, but may transfer and list its files; over the
other it is the other way round. -/
theorem channel_rights_leak :
    bobInOne.session.isAdmin = false ∧ bobInOne.state.chanOf "bob" = some 1 ∧
      SameOutside 1 empty (channelOneRights.foldl (putEntry (.channel 1)) empty) ∧
      (∀ req ∈ [.deleteChannel 2, .channelEdit { channelID := 2 },
          .channelIconSet { channelID := 2, dataBase64 := "AQ==" },
          .chatPin { channelID := 2, messageID := 1, pinned := false },
          .joinChannel { channelID := 2 }, .fileDelete { channelID := 2, name := "plan.txt" }],
        bobInOne.accepts empty req = false ∧
          bobInOne.accepts (channelOneRights.foldl (putEntry (.channel 1)) empty) req =
            true) ∧
      ∀ req ∈ [.fileTransferInit { channelID := 2, direction := "upload", name := "a", size := 1 },
          .fileTransferInit { channelID := 2, direction := "download", name := "plan.txt" },
          .fileList { channelID := 2 }],
        bobInOne.accepts empty req = true ∧
          bobInOne.accepts (channelOneRights.foldl (putEntry (.channel 1)) empty) req =
            false :=
  ⟨rfl, by decide, (refl 1 empty).foldl_putEntry (scopedTo_channel 1) _,
    by decide, by decide⟩

end Voicx.Server
