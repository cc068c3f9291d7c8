import Voicx.Permissions.Resolution
import Voicx.Server.GrantCap

/-!
# Permission writes that fail half way

`SetPermission` is three statements outside of a transaction: intern the tuple, delete what the
target holds for the key, insert the new link. `perm_template_apply` is a loop of such writes.
`perm_copy` is one transaction; its comment says that it "cannot leave a partial copy". All handlers
call `InvalidateAll` after the last write succeeded, and not when a write failed.

* `PermRows.Same` — the same rows are stored. `resolved_of_same` — then everybody resolves the same.
* `Response.invalidates` — when a handler drops the cache.
* `ErrorsHarmless` — a reported error means that nobody resolves anything else than before, and a
  changed row means that the cache was dropped.
* `StopsCleanly`, `applyTemplate_same_iff` — a loop of writes that stops leaves the rows alone
  exactly if what it wrote was there before and the failing write deleted nothing.
* **`errors_harmless_iff`** — for every request, exactly when an error is harmless.
-/

namespace Voicx.Permissions

/-! ## The same rows -/

/-- The same rows are stored, in whatever order. -/
def PermRows.Same (rs rs' : PermRows) : Prop := ∀ r, r ∈ rs'.rows ↔ r ∈ rs.rows

/-- The tables with other permission rows. -/
def PermDB.withPerms (db : PermDB) (rs : PermRows) : PermDB := { db with perms := rs }

/-- The permission a user resolves for a key in a channel, read from the database. -/
def resolved (db : PermDB) (userID channelID : Int) (key : String) : Option Permission :=
  (resolve ((loadFromDB userID channelID).eval db) key).map Prod.fst

section same

variable {rs rs' rs'' : PermRows} {loc : PermLoc}

lemma PermRows.Same.refl (rs : PermRows) : rs.Same rs := fun _ => Iff.rfl

lemma PermRows.Same.symm (h : rs.Same rs') : rs'.Same rs := fun r => (h r).symm

lemma PermRows.Same.trans (h : rs.Same rs') (h' : rs'.Same rs'') : rs.Same rs'' :=
  fun r => (h' r).trans (h r)

/-- **What is stored decides what is resolved.** -/
theorem resolved_of_same {db : PermDB} (h : db.perms.Same rs) (userID channelID : Int)
    (key : String) :
    resolved (db.withPerms rs) userID channelID key = resolved db userID channelID key := by
  have hentry : ∀ loc, entryAt (db.withPerms rs) loc key = entryAt db loc key :=
    fun loc => entryAt_congr fun e _ => h ⟨loc, e⟩
  have hwinner : winner (db.withPerms rs) userID channelID key = winner db userID channelID key :=
    winner_congr rfl rfl rfl fun loc _ => hentry loc
  rw [resolved, resolved, resolve_loadFromDB, resolve_loadFromDB, hwinner]

/-- Writing an entry changes nothing exactly if it is stored already. -/
lemma same_put_iff {e : PermEntry} : rs.Same (rs.put loc e) ↔ ⟨loc, e⟩ ∈ rs.rows := by
  constructor
  · intro h
    exact (h ⟨loc, e⟩).mp (PermRows.mem_put.mpr (.inr rfl))
  intro h r
  rw [PermRows.mem_put]
  constructor
  · rintro (⟨hr, -⟩ | rfl)
    · exact hr
    · exact h
  intro hr
  by_cases hslot : r.slot = (loc, e.key)
  · -- the target holds one row for the key
    obtain ⟨hloc, hkey⟩ := Prod.mk.inj hslot
    right
    obtain ⟨loc', e'⟩ := r
    obtain rfl : loc' = loc := hloc
    rw [PermRows.entry_unique hr h hkey]
  · exact .inl ⟨hr, hslot⟩

variable {key : String}

/-- Deleting a key changes nothing exactly if the target holds nothing for it. -/
lemma same_delete_iff : rs.Same (rs.delete loc key) ↔ rs.held loc key = [] := by
  rw [List.eq_nil_iff_forall_not_mem]
  constructor
  · intro h r hr
    obtain ⟨hmem, hloc, hkey⟩ := PermRows.mem_held.mp hr
    exact (PermRows.mem_delete.mp ((h r).mpr hmem)).2 (Prod.ext hloc hkey)
  · intro h r
    exact mem_delete_of_not_held (h r)

end same

end Voicx.Permissions

namespace Voicx.Server

open Permissions List PermRows

/-! ## Writes in a row -/

/-- At the first write that fails: everything written before it was stored already, and it failed
before its delete or there was nothing to delete. -/
def StopsCleanly (rs : PermRows) (loc : PermLoc) (f : Faults) (es : List PermEntry) : Prop :=
  ∀ done e rest, es = done ++ e :: rest → (∀ d ∈ done, f.set d.key = .ok) → f.set e.key ≠ .ok →
    (∀ d ∈ done, ⟨loc, d⟩ ∈ rs.rows) ∧ (f.set e.key = .failedBetween → rs.held loc e.key = [])

section loop

variable {rs : PermRows} {loc : PermLoc} {f : Faults} {e : PermEntry} {es : List PermEntry}

lemma applyTemplate_cons_ok (h : f.set e.key = .ok) :
    (applyTemplate rs loc f (e :: es)).rows = (applyTemplate (rs.put loc e) loc f es).rows ∧
      (applyTemplate rs loc f (e :: es)).ok = (applyTemplate (rs.put loc e) loc f es).ok := by
  simp [applyTemplate, h, setPermission]

lemma applyTemplate_cons_of_ne (h : f.set e.key ≠ .ok) :
    applyTemplate rs loc f (e :: es) = setPermission rs loc e (f.set e.key) := by
  have hok : (setPermission rs loc e (f.set e.key)).ok = false := by
    cases hset : f.set e.key with
    | ok => exact absurd hset h
    | failedBefore | failedBetween => rfl
  simp [applyTemplate, hok]

/-- The loop succeeds exactly if every write does. -/
lemma applyTemplate_ok_iff :
    (applyTemplate rs loc f es).ok = true ↔ ∀ e ∈ es, f.set e.key = .ok := by
  induction es generalizing rs with
  | nil => simp [applyTemplate]
  | cons e es ih =>
    rw [forall_mem_cons]
    cases hset : f.set e.key with
    | ok =>
      rw [(applyTemplate_cons_ok hset).2, ih]
      simp
    | failedBefore | failedBetween => simp [applyTemplate, hset, setPermission]

/-- A row that no write of the loop is about stays. -/
lemma mem_applyTemplate_of_ne {r : PermRow} (h : ∀ e ∈ es, r.slot ≠ (loc, e.key)) :
    r ∈ (applyTemplate rs loc f es).rows.rows ↔ r ∈ rs.rows := by
  induction es generalizing rs with
  | nil => rfl
  | cons e es ih =>
    obtain ⟨he, hes⟩ := forall_mem_cons.mp h
    have hrow : r ≠ ⟨loc, e⟩ := by
      rintro rfl
      exact he rfl
    cases hset : f.set e.key with
    | ok =>
      rw [(applyTemplate_cons_ok hset).1, ih hes, mem_put]
      simp [he, hrow]
    | failedBefore => simp [applyTemplate, hset, setPermission]
    | failedBetween => simp [applyTemplate, hset, setPermission, mem_delete, he]

/-- The first write fails. -/
lemma stopsCleanly_cons_of_ne (h : f.set e.key ≠ .ok) :
    StopsCleanly rs loc f (e :: es) ↔ (f.set e.key = .failedBetween → rs.held loc e.key = []) := by
  constructor
  · intro hstop
    exact (hstop [] e es rfl (by simp) h).2
  intro hheld done e' rest heq hdone _
  cases done with
  | nil =>
    obtain ⟨rfl, -⟩ := List.cons.inj heq
    exact ⟨by simp, hheld⟩
  | cons d done =>
    obtain ⟨rfl, -⟩ := List.cons.inj heq
    exact absurd (hdone e (by simp)) h

/-- The first write succeeds and a later one does not. -/
lemma stopsCleanly_cons_of_ok (h : f.set e.key = .ok) (hfail : ¬∀ e ∈ es, f.set e.key = .ok) :
    StopsCleanly rs loc f (e :: es) ↔ ⟨loc, e⟩ ∈ rs.rows ∧ StopsCleanly rs loc f es := by
  constructor
  · intro hstop
    have hcons : ∀ done e' rest, es = done ++ e' :: rest → (∀ d ∈ done, f.set d.key = .ok) →
        f.set e'.key ≠ .ok → (∀ d ∈ e :: done, ⟨loc, d⟩ ∈ rs.rows) ∧
          (f.set e'.key = .failedBetween → rs.held loc e'.key = []) := by
      intro done e' rest heq hdone hne
      exact hstop (e :: done) e' rest (by rw [heq]; rfl) (forall_mem_cons.mpr ⟨h, hdone⟩) hne
    constructor
    · -- there is a first failing write
      obtain ⟨e', done, rest, hdone, hes, he'⟩ : ∃ e' done rest,
          (∀ d ∈ done, f.set d.key = .ok) ∧ es = done ++ e' :: rest ∧ f.set e'.key ≠ .ok := by
        have hsome : (es.find? fun e => f.set e.key ≠ .ok).isSome := by
          simpa using hfail
        obtain ⟨e', hfind⟩ := Option.isSome_iff_exists.mp hsome
        obtain ⟨he', done, rest, hes, hdone⟩ := List.find?_eq_some_iff_append.mp hfind
        exact ⟨e', done, rest, by simpa using hdone, hes, by simpa using he'⟩
      exact (hcons done e' rest hes hdone he').1 e (by simp)
    · intro done e' rest heq hdone hne
      obtain ⟨hrows, hheld⟩ := hcons done e' rest heq hdone hne
      exact ⟨fun d hd => hrows d (mem_cons_of_mem _ hd), hheld⟩
  · rintro ⟨hmem, hstop⟩ done e' rest heq hdone hne
    cases done with
    | nil =>
      obtain ⟨rfl, -⟩ := List.cons.inj heq
      exact absurd h hne
    | cons d done =>
      obtain ⟨rfl, heq'⟩ := List.cons.inj heq
      obtain ⟨hrows, hheld⟩ := hstop done e' rest heq' (forall_mem_cons.mp hdone).2 hne
      exact ⟨forall_mem_cons.mpr ⟨hmem, hrows⟩, hheld⟩

lemma StopsCleanly.congr {rs' : PermRows} (h : rs.Same rs') :
    StopsCleanly rs' loc f es ↔ StopsCleanly rs loc f es := by
  simp [StopsCleanly, h _, eq_nil_iff_forall_not_mem, mem_held]

/-- **A loop that stops half way.** With distinct keys: the rows are as before if and only if the
loop stopped cleanly. -/
theorem applyTemplate_same_iff (hnodup : (es.map PermEntry.key).Nodup)
    (hfail : ¬∀ e ∈ es, f.set e.key = .ok) :
    rs.Same (applyTemplate rs loc f es).rows ↔ StopsCleanly rs loc f es := by
  induction es generalizing rs with
  | nil => exact absurd (by simp) hfail
  | cons e es ih =>
    rw [map_cons, nodup_cons] at hnodup
    obtain ⟨hkey, hnodup⟩ := hnodup
    by_cases hset : f.set e.key = .ok
    · have hrest : ¬∀ e ∈ es, f.set e.key = .ok := fun h =>
        hfail (forall_mem_cons.mpr ⟨hset, h⟩)
      rw [(applyTemplate_cons_ok hset).1, stopsCleanly_cons_of_ok hset hrest]
      -- the first entry is stored at the end, since no later write has its key
      have hlast : ⟨loc, e⟩ ∈ (applyTemplate (rs.put loc e) loc f es).rows.rows := by
        rw [mem_applyTemplate_of_ne]
        · exact mem_put.mpr (.inr rfl)
        · intro e' he' hslot
          have heq : e.key = e'.key := congrArg Prod.snd hslot
          exact hkey (heq ▸ mem_map_of_mem he')
      constructor
      · intro hsame
        have hmem := (hsame ⟨loc, e⟩).mp hlast
        have hput := same_put_iff.mpr hmem
        refine ⟨hmem, (StopsCleanly.congr hput).mp ((ih hnodup hrest).mp ?_)⟩
        exact hput.symm.trans hsame
      · rintro ⟨hmem, hstop⟩
        have hput := same_put_iff.mpr hmem
        exact hput.trans ((ih hnodup hrest).mpr ((StopsCleanly.congr hput).mpr hstop))
    · rw [stopsCleanly_cons_of_ne hset]
      rw [applyTemplate_cons_of_ne hset]
      cases houtcome : f.set e.key with
      | ok => exact absurd houtcome hset
      | failedBefore => exact iff_of_true (.refl rs) (fun h => by cases h)
      | failedBetween => simp [setPermission, same_delete_iff]

end loop

/-! ## Responses -/

/-- Every handler calls `InvalidateAll` after its write succeeded, and none calls it otherwise.
Source: `internal/server/groups.go`, `handlePermSet`, `handlePermUnset`, `handlePermCopy`,
`handlePermTemplateApply` -/
def Response.invalidates (r : Response) : Bool :=
  match r.result with
  | .ok _ => true
  | .error _ => false

/-- If an error is reported, everybody resolves what they resolved before; and if the rows are not
the same as before, the cache was dropped. -/
def ErrorsHarmless (db : PermDB) (r : Response) : Prop :=
  (r.result ≠ .ok () → ∀ userID channelID key,
      resolved (db.withPerms r.rows) userID channelID key = resolved db userID channelID key) ∧
    (¬db.perms.Same r.rows → r.invalidates = true)

section responses

variable {db : PermDB}

/-- The cache is not dropped after an error, so an error is harmless exactly if the rows are the
same. -/
lemma errorsHarmless_iff_same {r : Response} :
    ErrorsHarmless db r ↔ (r.result ≠ .ok () → db.perms.Same r.rows) := by
  have hinv : r.invalidates = true ↔ r.result = .ok () := by
    unfold Response.invalidates
    cases r.result with
    | ok u | error e => simp
  rw [ErrorsHarmless, hinv]
  constructor
  · rintro ⟨-, hrows⟩ herr
    by_contra hdiff
    exact herr (hrows hdiff)
  · intro h
    refine ⟨fun herr => resolved_of_same (h herr), fun hdiff => ?_⟩
    by_contra herr
    exact hdiff (h herr)

lemma errorsHarmless_refuse (e : PermError) : ErrorsHarmless db (refuse db.perms e) :=
  errorsHarmless_iff_same.mpr fun _ => .refl db.perms

variable {message : String} {loc : PermLoc}

lemma errorsHarmless_respond_iff {w : WriteResult} :
    ErrorsHarmless db (respond w message) ↔ (w.ok = false → db.perms.Same w.rows) := by
  have hok : (respond w message).result ≠ .ok () ↔ w.ok = false := by
    unfold respond
    cases w.ok <;> simp
  rw [errorsHarmless_iff_same, hok]
  rfl

lemma errorsHarmless_setPermission_iff {e : PermEntry} {o : WriteOutcome} :
    ErrorsHarmless db (respond (setPermission db.perms loc e o) message) ↔
      (o = .failedBetween → db.perms.held loc e.key = []) := by
  rw [errorsHarmless_respond_iff]
  cases o with
  | ok => exact iff_of_true (fun h => by cases h) (fun h => by cases h)
  | failedBefore => exact iff_of_true (fun _ => .refl _) (fun h => by cases h)
  | failedBetween => simp [setPermission, same_delete_iff]

lemma errorsHarmless_applyTemplate_iff {f : Faults} {es : List PermEntry}
    (hnodup : (es.map PermEntry.key).Nodup) :
    ErrorsHarmless db (respond (applyTemplate db.perms loc f es) message) ↔
      StopsCleanly db.perms loc f es := by
  rw [errorsHarmless_respond_iff]
  by_cases hall : ∀ e ∈ es, f.set e.key = .ok
  · refine iff_of_true (fun h => ?_) ?_
    · rw [applyTemplate_ok_iff.mpr hall] at h
      cases h
    · intro done e rest heq _ hne
      exact absurd (hall e (by simp [heq])) hne
  · have hfail : (applyTemplate db.perms loc f es).ok = false := by
      rw [← Bool.not_eq_true, applyTemplate_ok_iff]
      exact hall
    rw [applyTemplate_same_iff hnodup hall]
    simp [hfail]

end responses

/-! ## Requests -/

/-- The same request with `SetPermission` ending otherwise. -/
def Faults.withSet (f : Faults) (set : String → WriteOutcome) : Faults := { f with set := set }

/-- Every `SetPermission` succeeds. -/
def Faults.writesOk (f : Faults) : Faults := f.withSet fun _ => .ok

section requests

variable (lookupUser : String → Option Int) (rs : PermRows) (pc : Option PermChecker) (f : Faults)

/-- When an error of a request is harmless. A request that is refused (that would be refused also if
every write succeeded) writes nothing; a copy is one transaction and a removal one statement. -/
def FailsCleanly : PermRequest → Prop
  | .set msg => ∀ tier target,
      permTarget lookupUser msg.tier msg.uniqueID msg.groupID msg.channelID = .ok (tier, target) →
      (handlePermSet lookupUser rs pc f.writesOk msg).result = .ok () →
      f.set msg.key = .failedBetween → rs.held (tier.loc target) msg.key = []
  | .unset _ => True
  | .copy _ => True
  | .templateApply msg => ∀ tmpl tier target, permTemplates msg.template = some tmpl →
      permTarget lookupUser msg.tier msg.uniqueID msg.groupID 0 = .ok (tier, target) →
      (handlePermTemplateApply lookupUser rs pc f.writesOk msg).result = .ok () →
      StopsCleanly rs (tier.loc target) f (f.writeOrder.order tmpl)

/-- Whether a `perm_set` is refused does not depend on how the write would end. -/
lemma handlePermSet_cases (msg : PermSet) :
    (∃ e, ∀ set, handlePermSet lookupUser rs pc (f.withSet set) msg = refuse rs e) ∨
      ∃ tier target, permTarget lookupUser msg.tier msg.uniqueID msg.groupID msg.channelID =
          .ok (tier, target) ∧
        ∀ set, handlePermSet lookupUser rs pc (f.withSet set) msg =
          respond (setPermission rs (tier.loc target)
            ⟨msg.key, msg.value, msg.grant, msg.skip, msg.negate⟩ (set msg.key))
            "perm set failed" := by
  let write (set : String → WriteOutcome) (loc : PermLoc) : Response :=
    respond (setPermission rs loc ⟨msg.key, msg.value, msg.grant, msg.skip, msg.negate⟩
      (set msg.key)) "perm set failed"
  rcases cappedWrite_cases rs pc f
      (permTarget lookupUser msg.tier msg.uniqueID msg.groupID msg.channelID) msg.key msg.value
      msg.grant "grant cap exceeded: you may only set values <= your own grant for this key" with
    ⟨e, h⟩ | ⟨-, tier, target, -, -, ht, -, -, h⟩
  · exact .inl ⟨e, fun set => h (write set)⟩
  · exact .inr ⟨tier, target, ht, fun set => h (write set)⟩

/-- Whether a template is refused does not depend on how its writes would end. -/
lemma handlePermTemplateApply_cases (msg : PermTemplateApply) :
    (∃ e, ∀ set, handlePermTemplateApply lookupUser rs pc (f.withSet set) msg = refuse rs e) ∨
      ∃ tmpl tier target, permTemplates msg.template = some tmpl ∧
        permTarget lookupUser msg.tier msg.uniqueID msg.groupID 0 = .ok (tier, target) ∧
        ∀ set, handlePermTemplateApply lookupUser rs pc (f.withSet set) msg =
          respond (applyTemplate rs (tier.loc target) (f.withSet set) (f.writeOrder.order tmpl))
            "template apply failed" := by
  unfold handlePermTemplateApply
  cases htmpl : permTemplates msg.template with
  | none => exact .inl ⟨_, fun _ => rfl⟩
  | some tmpl =>
    cases pc with
    | none => exact .inl ⟨_, fun _ => rfl⟩
    | some c =>
      simp only [gated]
      split_ifs
      · exact .inl ⟨_, fun _ => rfl⟩
      cases haddr : permTarget lookupUser msg.tier msg.uniqueID msg.groupID 0 with
      | error e => exact .inl ⟨_, fun _ => rfl⟩
      | ok a =>
        simp only
        split_ifs
        · exact .inl ⟨_, fun _ => rfl⟩
        -- the loops before the first write read nothing of `set`
        have hcurrent : ∀ set, currentPerms rs c (a.1.loc a.2) (f.withSet set) =
            currentPerms rs c (a.1.loc a.2) f := fun _ => rfl
        have horder : ∀ set, (f.withSet set).checkOrder.order tmpl =
            f.checkOrder.order tmpl := fun _ => rfl
        simp only [hcurrent, horder]
        cases currentPerms rs c (a.1.loc a.2) f with
        | none => exact .inl ⟨_, fun _ => rfl⟩
        | some current =>
          simp only
          cases (f.checkOrder.order tmpl).find?
              fun e => !grantCapOkWrite c current e.key e.value e.grant with
          | some e => exact .inl ⟨_, fun _ => rfl⟩
          | none => exact .inr ⟨tmpl, a.1, a.2, rfl, rfl, fun _ => rfl⟩

end requests

/-- No template has a key twice. -/
lemma permTemplates_nodup {name : String} {tmpl : List PermEntry}
    (h : permTemplates name = some tmpl) : (tmpl.map PermEntry.key).Nodup := by
  unfold permTemplates at h
  split at h <;> cases h <;> decide

section harmless

variable {lookupUser : String → Option Int} {db : PermDB} {pc : Option PermChecker} {f : Faults}

lemma handlePermSet_harmless_iff (msg : PermSet) :
    ErrorsHarmless db (handlePermSet lookupUser db.perms pc f msg) ↔
      FailsCleanly lookupUser db.perms pc f (.set msg) := by
  rcases handlePermSet_cases lookupUser db.perms pc f msg with
    ⟨e, hrefuse⟩ | ⟨tier, target, haddr, hwrite⟩
  · rw [show handlePermSet lookupUser db.perms pc f msg = refuse db.perms e from hrefuse f.set]
    refine iff_of_true (errorsHarmless_refuse e) fun tier target _ hok => ?_
    rw [Faults.writesOk, hrefuse] at hok
    cases hok
  rw [show handlePermSet lookupUser db.perms pc f msg = _ from hwrite f.set,
    errorsHarmless_setPermission_iff]
  constructor
  · intro h tier' target' haddr' _
    cases haddr.symm.trans haddr'
    exact h
  · intro h
    exact h tier target haddr (by rw [Faults.writesOk, hwrite]; rfl)

lemma handlePermTemplateApply_harmless_iff (msg : PermTemplateApply) :
    ErrorsHarmless db (handlePermTemplateApply lookupUser db.perms pc f msg) ↔
      FailsCleanly lookupUser db.perms pc f (.templateApply msg) := by
  rcases handlePermTemplateApply_cases lookupUser db.perms pc f msg with
    ⟨e, hrefuse⟩ | ⟨tmpl, tier, target, htmpl, haddr, hwrite⟩
  · rw [show handlePermTemplateApply lookupUser db.perms pc f msg = _ from hrefuse f.set]
    refine iff_of_true (errorsHarmless_refuse e) fun tmpl tier target _ _ hok => ?_
    rw [Faults.writesOk, hrefuse] at hok
    cases hok
  have hnodup : ((f.writeOrder.order tmpl).map PermEntry.key).Nodup :=
    ((f.writeOrder.perm tmpl).map _).nodup_iff.mpr (permTemplates_nodup htmpl)
  rw [show handlePermTemplateApply lookupUser db.perms pc f msg = _ from hwrite f.set,
    errorsHarmless_applyTemplate_iff hnodup]
  constructor
  · intro h tmpl' tier' target' htmpl' haddr' _
    cases htmpl.symm.trans htmpl'
    cases haddr.symm.trans haddr'
    exact h
  · intro h
    refine h tmpl tier target htmpl haddr ?_
    have hok : (applyTemplate db.perms (tier.loc target) (f.withSet fun _ => .ok)
        (f.writeOrder.order tmpl)).ok = true := applyTemplate_ok_iff.mpr fun _ _ => rfl
    rw [Faults.writesOk, hwrite, respond, hok]
    rfl

/-- One statement: it fails as a whole. -/
lemma handlePermUnset_harmless (msg : PermUnset) :
    ErrorsHarmless db (handlePermUnset lookupUser db.perms pc f msg) := by
  unfold handlePermUnset
  rcases cappedWrite_cases db.perms pc f
      (permTarget lookupUser msg.tier msg.uniqueID msg.groupID msg.channelID) msg.key 0 0 _
    with ⟨e, h⟩ | ⟨-, tier, target, -, -, -, -, -, h⟩
  · rw [h]
    exact errorsHarmless_refuse e
  · rw [h, errorsHarmless_respond_iff]
    cases hunset : f.unset with
    | true => exact fun h => by cases h
    | false => exact fun _ => .refl _

/-- One transaction: it is rolled back as a whole. -/
lemma handlePermCopy_harmless (msg : PermCopy) :
    ErrorsHarmless db (handlePermCopy lookupUser db.perms pc f msg) := by
  unfold handlePermCopy gated
  split
  · exact errorsHarmless_refuse _
  split_ifs
  · exact errorsHarmless_refuse _
  split
  · exact errorsHarmless_refuse _
  split
  · exact errorsHarmless_refuse _
  split_ifs
  · exact errorsHarmless_refuse _
  unfold doPermCopyLocked
  split_ifs
  · exact errorsHarmless_refuse _
  dsimp only
  split
  · exact errorsHarmless_refuse _
  split
  · exact errorsHarmless_refuse _
  · rw [errorsHarmless_respond_iff]
    cases f.copy with
    | true => exact fun h => by cases h
    | false => exact fun _ => .refl _

end harmless

/-- **When a failed permission write changes nothing.** For every database, caller, request and
choice of failing calls: a reported error leaves what everybody resolves as it was and a changed row
means that the cache was dropped, if and only if the request fails cleanly. `perm_copy` always does.
`perm_set` does unless the insert fails after the delete removed an entry. A template does if, at
the first write that fails, all entries written before were stored already, and it failed before its
delete or there was nothing to delete. -/
theorem errors_harmless_iff (lookupUser : String → Option Int) (db : PermDB)
    (pc : Option PermChecker) (f : Faults) (req : PermRequest) :
    ErrorsHarmless db (handlePerm lookupUser db.perms pc f req) ↔
      FailsCleanly lookupUser db.perms pc f req := by
  cases req with
  | set msg => exact handlePermSet_harmless_iff msg
  | unset msg => exact iff_of_true (handlePermUnset_harmless msg) trivial
  | copy msg => exact iff_of_true (handlePermCopy_harmless msg) trivial
  | templateApply msg => exact handlePermTemplateApply_harmless_iff msg

/-! ### An entry lost, a template half applied -/

/-- User 7 is in group 1, which may poke. -/
def pokeGroup : PermDB :=
  { PermDB.empty with
    perms := empty.put (.serverGroup 1) { key := "b_client_poke", value := 1 }
    serverGroups := fun u => if u = 7 then [1] else [] }

/-- The checker of a server admin. -/
def operatorChecker : PermChecker := { tp := ∅, admin := true }

/-- Writes go through but for the insert of one key. -/
def insertFails (key : String) : Faults :=
  { set := fun k => if k = key then .failedBetween else .ok }

/-- A `perm_set` that fails between its delete and its insert takes the permission away; a template
whose second write fails has granted what its first entry grants. Both report an error and leave the
cache alone. -/
theorem failed_write_changes_permissions :
    let set := handlePerm (fun _ => none) pokeGroup.perms (some operatorChecker)
      (insertFails "b_client_poke")
      (.set { tier := "server_group", groupID := 1, key := "b_client_poke", value := 2 })
    let member := handlePerm (fun _ => none) empty (some operatorChecker)
      (insertFails "b_channel_create_temporary")
      (.templateApply { template := "member", tier := "server_group", groupID := 1 })
    (set.result = .error (.unavailable "perm set failed") ∧ set.invalidates = false ∧
        (resolved pokeGroup 7 0 "b_client_poke").map Permission.value = some 1 ∧
        (resolved (pokeGroup.withPerms set.rows) 7 0 "b_client_poke").map Permission.value = none) ∧
      member.result = .error (.unavailable "template apply failed") ∧ member.invalidates = false ∧
        (resolved (pokeGroup.withPerms empty) 7 0 "b_client_poke").map Permission.value =
          none ∧
        (resolved (pokeGroup.withPerms member.rows) 7 0 "b_client_poke").map Permission.value =
          some 1 := by
  decide +kernel

end Voicx.Server
