import Voicx.Server.PermWrite

/-!
# The grant cap, entry by entry

A caller who is neither admin nor exempt (`b_permission_modify_power_ignore`) writes, overwrites and
removes only entries up to its own grant for the entry's key, through every request of the write
path; a request the cap refuses has written nothing.

* `Capped` — a row is within the caller's own grant.
* `Covers` — the index the cap is checked against knows every stored row of the target. It does,
  because a target holds no key twice.
* `setAll_touched`, `unsetAll_touched`, `applyTemplate_touched` — the write loops report only rows
  of the target under the keys they were given.
* `cappedWrite` — what `perm_set` and `perm_unset` have in common.
* `Sound`, `handlePerm_sound` — of every request: the report of touched rows is complete, every row
  it names is capped, and a refusal by the cap has written nothing.
* **`accepted_within_grant`** — the same, spelled out for a caller subject to the cap.
-/

namespace Voicx.Server

open Found Permissions List PermRows

/-! ## What the cap says -/

/-- The caller is subject to the cap. -/
def PermChecker.Limited (pc : PermChecker) : Prop :=
  pc.admin = false ∧ pc.granted permissionModifyPowerIgnore = false

/-- Value and grant of the row are within the caller's own grant for its key. -/
def Capped (pc : PermChecker) (r : PermRow) : Prop :=
  ∃ own, pc.own r.entry.key = some own ∧ r.entry.value ≤ own.grant ∧ r.entry.grant ≤ own.grant

section cap

variable {pc : PermChecker}

lemma capped_of_grantCapOk (hpc : pc.Limited) {loc : PermLoc} {e : PermEntry}
    (h : grantCapOk pc e.key e.value e.grant = true) : Capped pc ⟨loc, e⟩ := by
  unfold grantCapOk at h
  rw [hpc.1, hpc.2] at h
  cases hown : pc.own e.key with
  | none => simp [hown] at h
  | some own =>
    simp only [Bool.or_self, Bool.false_eq_true, if_false, hown, Bool.and_eq_true,
      decide_eq_true_eq] at h
    exact ⟨own, hown, h.1, h.2⟩

/-- The index knows every stored row of the target. -/
def Covers (current : FMap String PermEntry) (rs : PermRows) (loc : PermLoc) : Prop :=
  ∀ r ∈ rs.rows, r.loc = loc → current.lookup r.entry.key = some r.entry

lemma lookup_foldl_insert {entries : List PermEntry} {m : FMap String PermEntry} {e : PermEntry}
    (hmem : e ∈ entries ∨ m.lookup e.key = some e)
    (huniq : ∀ e' ∈ entries, e'.key = e.key → e' = e) :
    (entries.foldl (fun out e => out.insert e.key e) m).lookup e.key = some e := by
  induction entries generalizing m with
  | nil => simpa using hmem
  | cons e' entries ih =>
    refine ih ?_ fun e'' he'' => huniq e'' (mem_cons_of_mem e' he'')
    by_cases hkey : e'.key = e.key
    · -- the entry under this key is `e` itself
      right
      rw [FMap.lookup_insert_ite, if_pos hkey.symm, huniq e' mem_cons_self hkey]
    rcases hmem with hmem | hm
    · rcases mem_cons.mp hmem with rfl | hmem
      · exact absurd rfl hkey
      · exact .inl hmem
    · right
      rw [FMap.lookup_insert_ite, if_neg fun h => hkey h.symm, hm]

lemma covers_indexByKey (rs : PermRows) (loc : PermLoc) :
    Covers (indexByKey (listPermissions rs loc)) rs loc := by
  rintro ⟨loc', e⟩ hr rfl
  refine lookup_foldl_insert (.inl (mem_listPermissions.mpr hr)) fun e' he' hkey => ?_
  exact entry_unique (mem_listPermissions.mp he') hr hkey

lemma covers_currentPerms (hpc : pc.Limited) {rs : PermRows} {loc : PermLoc} {f : Faults}
    {current : FMap String PermEntry} (h : currentPerms rs pc loc f = some current) :
    Covers current rs loc := by
  simp only [currentPerms, hpc.1, Bool.false_eq_true, if_false] at h
  split_ifs at h
  cases h
  exact covers_indexByKey rs loc

variable {current : FMap String PermEntry} {rs : PermRows} {loc : PermLoc}

/-- What the cap admits is capped, and so is every stored row it replaces. -/
lemma capped_of_grantCapOkWrite (hpc : pc.Limited) (hcov : Covers current rs loc) {key : String}
    {value grant : Int} (h : grantCapOkWrite pc current key value grant = true) :
    grantCapOk pc key value grant = true ∧
      ∀ r ∈ rs.rows, r.loc = loc → r.entry.key = key → Capped pc r := by
  unfold grantCapOkWrite at h
  cases hnew : grantCapOk pc key value grant with
  | false => simp [hnew] at h
  | true =>
    refine ⟨rfl, ?_⟩
    rintro ⟨loc', e⟩ hr rfl rfl
    simp only [hnew, Bool.not_true, Bool.false_eq_true, if_false, hcov _ hr rfl] at h
    exact capped_of_grantCapOk hpc h

/-- A batch that the cap admits entry by entry is capped, and so is every stored row it replaces. -/
lemma capped_of_batch (hpc : pc.Limited) (hcov : Covers current rs loc) {es : List PermEntry}
    (h : ∀ e ∈ es, grantCapOkWrite pc current e.key e.value e.grant = true) :
    (∀ e ∈ es, Capped pc ⟨loc, e⟩) ∧
      ∀ r ∈ rs.rows, r.loc = loc → r.entry.key ∈ es.map PermEntry.key → Capped pc r := by
  constructor
  · intro e he
    exact capped_of_grantCapOk hpc (capped_of_grantCapOkWrite hpc hcov (h e he)).1
  · intro r hr hloc hkey
    obtain ⟨e, he, hkey'⟩ := mem_map.mp hkey
    exact (capped_of_grantCapOkWrite hpc hcov (h e he)).2 r hr hloc hkey'.symm

end cap

/-! ## What the write loops touch -/

section loops

variable {P : PermRow → Prop} {rs : PermRows} {loc : PermLoc} {e : PermEntry} {es : List PermEntry}

lemma setPermission_touched (hnew : P ⟨loc, e⟩)
    (hold : ∀ r ∈ rs.rows, r.loc = loc → r.entry.key = e.key → P r) (o : WriteOutcome) :
    ∀ r ∈ (setPermission rs loc e o).touched, P r := by
  have hheld : ∀ r ∈ rs.held loc e.key, P r := by
    intro r hr
    obtain ⟨hmem, hloc, hkey⟩ := mem_held.mp hr
    exact hold r hmem hloc hkey
  intro r hr
  cases o with
  | ok =>
    rcases mem_append.mp hr with hr | hr
    · exact hheld r hr
    · rw [mem_singleton.mp hr]
      exact hnew
  | failedBefore => simp [setPermission] at hr
  | failedBetween => exact hheld r hr

lemma setPermission_rows_of_ok {o : WriteOutcome} (h : (setPermission rs loc e o).ok = true) :
    (setPermission rs loc e o).rows = rs.put loc e := by
  cases o with
  | ok => rfl
  | failedBefore | failedBetween => cases h

/-- What a list of removals touches. -/
theorem unsetAll_touched {keys : List String}
    (hold : ∀ r ∈ rs.rows, r.loc = loc → r.entry.key ∈ keys → P r) :
    ∀ r ∈ (unsetAll rs loc keys).touched, P r := by
  induction keys generalizing rs with
  | nil => simp [unsetAll]
  | cons key keys ih =>
    intro r hr
    rcases mem_append.mp hr with hr | hr
    · obtain ⟨hmem, hloc, rfl⟩ := mem_held.mp hr
      exact hold r hmem hloc mem_cons_self
    · refine ih (fun r' hr' hloc hkey => ?_) r hr
      exact hold r' (mem_delete.mp hr').1 hloc (mem_cons_of_mem _ hkey)

lemma unsetAll_subset (keys : List String) {r : PermRow} :
    r ∈ (unsetAll rs loc keys).rows.rows → r ∈ rs.rows := by
  induction keys generalizing rs with
  | nil => exact id
  | cons key keys ih => exact fun hr => (mem_delete.mp (ih hr)).1

/-- Between the writes of a batch, the rows of the target are old rows or rows of the batch. -/
lemma batch_put (hnew : P ⟨loc, e⟩)
    (hold : ∀ r ∈ rs.rows, r.loc = loc → r.entry.key ∈ (e :: es).map PermEntry.key → P r) :
    ∀ r ∈ (rs.put loc e).rows, r.loc = loc → r.entry.key ∈ es.map PermEntry.key → P r := by
  intro r hr hloc hkey
  rcases mem_put.mp hr with ⟨hr, -⟩ | rfl
  · exact hold r hr hloc (mem_cons_of_mem _ hkey)
  · exact hnew

/-- What a batch touches. -/
theorem setAll_touched (hnew : ∀ e ∈ es, P ⟨loc, e⟩)
    (hold : ∀ r ∈ rs.rows, r.loc = loc → r.entry.key ∈ es.map PermEntry.key → P r) :
    ∀ r ∈ (setAll rs loc es).touched, P r := by
  induction es generalizing rs with
  | nil => simp [setAll]
  | cons e es ih =>
    intro r hr
    rcases mem_append.mp hr with hr | hr
    · obtain ⟨hmem, hloc, hkey⟩ := mem_held.mp hr
      exact hold r hmem hloc (by simp [hkey])
    · rcases mem_cons.mp hr with rfl | hr
      · exact hnew e mem_cons_self
      · exact ih (fun e' he' => hnew e' (mem_cons_of_mem e he'))
          (batch_put (hnew e mem_cons_self) hold) r hr

/-- What a template touches, also one that fails. -/
theorem applyTemplate_touched (f : Faults) (hnew : ∀ e ∈ es, P ⟨loc, e⟩)
    (hold : ∀ r ∈ rs.rows, r.loc = loc → r.entry.key ∈ es.map PermEntry.key → P r) :
    ∀ r ∈ (applyTemplate rs loc f es).touched, P r := by
  induction es generalizing rs with
  | nil => simp [applyTemplate]
  | cons e es ih =>
    have hfirst : ∀ r ∈ (setPermission rs loc e (f.set e.key)).touched, P r :=
      setPermission_touched (hnew e mem_cons_self)
        (fun r hr hloc hkey => hold r hr hloc (by simp [hkey])) _
    intro r hr
    simp only [applyTemplate] at hr
    split_ifs at hr with hok
    · rcases mem_append.mp hr with hr | hr
      · exact hfirst r hr
      · -- the first write went through, so the rest of the batch starts from its rows
        rw [setPermission_rows_of_ok hok] at hr
        exact ih (fun e' he' => hnew e' (mem_cons_of_mem e he'))
          (batch_put (hnew e mem_cons_self) hold) r hr
    · exact hfirst r hr

lemma applyTemplate_honest (f : Faults) (es : List PermEntry) :
    (applyTemplate rs loc f es).Honest rs := by
  induction es generalizing rs with
  | nil => exact fun r _ => Iff.rfl
  | cons e es ih =>
    intro r hr
    simp only [applyTemplate] at hr ⊢
    split_ifs at hr ⊢ with hok
    · simp only [mem_append, not_or] at hr
      exact (ih r hr.2).trans (setPermission_honest e _ r hr.1)
    · exact setPermission_honest e _ r hr

end loops

/-! ## Every request -/

/-- What holds of every response of the write path, given how it can come about: a refusal before
the first write, or one of the four writes after its checks. -/
structure Sound (pc : Option PermChecker) (rs : PermRows) (resp : Response) : Prop where
  /-- rows that the report does not mention are unchanged -/
  honest : ∀ r, r ∉ resp.touched → (r ∈ resp.rows.rows ↔ r ∈ rs.rows)
  /-- a caller subject to the cap touches only capped rows -/
  capped : ∀ c, pc = some c → c.Limited → ∀ r ∈ resp.touched, Capped c r
  /-- the cap refuses before the first write -/
  refused : ∀ message, resp.result = .error (.capExceeded message) → resp.rows = rs

section requests

variable {rs : PermRows} {pc : Option PermChecker}

lemma sound_refuse (e : PermError) : Sound pc rs (refuse rs e) where
  honest _ _ := Iff.rfl
  capped _ _ _ r hr := by simp [refuse] at hr
  refused _ _ := rfl

lemma sound_respond {w : WriteResult} {message : String} (hhonest : w.Honest rs)
    (hcapped : ∀ c, pc = some c → c.Limited → ∀ r ∈ w.touched, Capped c r) :
    Sound pc rs (respond w message) where
  honest := hhonest
  capped := hcapped
  refused m h := by
    simp only [respond] at h
    split_ifs at h
    cases h

lemma sound_gated {body : PermChecker → Response} (h : ∀ c, pc = some c → Sound pc rs (body c)) :
    Sound pc rs (gated rs pc body) := by
  cases pc with
  | none => exact sound_refuse _
  | some c =>
    simp only [gated]
    split_ifs
    · exact sound_refuse _
    · exact h c rfl

section cappedWrite

variable {f : Faults} {address : Except String (PermTier × PermTarget)} {key : String}
  {value grant : Int} {exceeded : String} {write : PermLoc → Response}

variable (rs pc f address key value grant exceeded) in
/-- A capped write is refused whatever it would write, or passes the cap and is carried out. -/
lemma cappedWrite_cases :
    (∃ e, ∀ write, cappedWrite rs pc f address key value grant exceeded write = refuse rs e) ∨
      ∃ c tier target current, pc = some c ∧ address = .ok (tier, target) ∧
        currentPerms rs c (tier.loc target) f = some current ∧
        grantCapOkWrite c current key value grant = true ∧
        ∀ write, cappedWrite rs pc f address key value grant exceeded write =
          write (tier.loc target) := by
  cases pc with
  | none => exact .inl ⟨_, fun _ => rfl⟩
  | some c =>
    simp only [cappedWrite, gated]
    split_ifs
    · exact .inl ⟨_, fun _ => rfl⟩
    cases address with
    | error e => exact .inl ⟨_, fun _ => rfl⟩
    | ok a =>
      cases hcur : currentPerms rs c (a.1.loc a.2) f with
      | none => exact .inl ⟨_, fun _ => by simp only [hcur]; rfl⟩
      | some current =>
        simp only [hcur]
        split_ifs with hcap
        · exact .inl ⟨_, fun _ => rfl⟩
        · exact .inr ⟨c, a.1, a.2, current, rfl, rfl, hcur, by simpa using hcap, fun _ => rfl⟩

/-- The write runs with the new and the stored entry under the cap. -/
lemma sound_cappedWrite (h : ∀ c loc, pc = some c →
      (c.Limited → grantCapOk c key value grant = true ∧
        ∀ r ∈ rs.rows, r.loc = loc → r.entry.key = key → Capped c r) →
      Sound pc rs (write loc)) :
    Sound pc rs (cappedWrite rs pc f address key value grant exceeded write) := by
  rcases cappedWrite_cases rs pc f address key value grant exceeded with
    ⟨e, hrefuse⟩ | ⟨c, tier, target, current, hc, -, hcur, hcap, hwrite⟩
  · rw [hrefuse]
    exact sound_refuse _
  · rw [hwrite]
    refine h c _ hc fun hlim => ?_
    exact capped_of_grantCapOkWrite hlim (covers_currentPerms hlim hcur) hcap

/-- An accepted write leaves the rows that `op` left at the target. -/
lemma cappedWrite_ok {op : PermLoc → WriteResult} {message : String}
    (hwrite : write = fun loc => respond (op loc) message)
    (h : (cappedWrite rs pc f address key value grant exceeded write).result = .ok ()) :
    ∃ tier target, address = .ok (tier, target) ∧ (op (tier.loc target)).ok = true ∧
      (cappedWrite rs pc f address key value grant exceeded write).rows =
        (op (tier.loc target)).rows := by
  subst hwrite
  rcases cappedWrite_cases rs pc f address key value grant exceeded with
    ⟨e, hrefuse⟩ | ⟨c, tier, target, current, -, haddr, -, -, hwrite⟩
  · rw [hrefuse] at h
    cases h
  · rw [hwrite] at h ⊢
    simp only [respond] at h
    split_ifs at h with hok
    exact ⟨tier, target, haddr, hok, rfl⟩

end cappedWrite

variable (lookupUser : String → Option Int) (f : Faults)

lemma handlePermSet_sound (msg : PermSet) :
    Sound pc rs (handlePermSet lookupUser rs pc f msg) := by
  refine sound_cappedWrite fun c loc hc hcap => ?_
  refine sound_respond (setPermission_honest _ _) fun c' hc' hlim => ?_
  cases hc.symm.trans hc'
  obtain ⟨hnew, hold⟩ := hcap hlim
  exact setPermission_touched (capped_of_grantCapOk hlim hnew) hold _

lemma handlePermUnset_sound (msg : PermUnset) :
    Sound pc rs (handlePermUnset lookupUser rs pc f msg) := by
  refine sound_cappedWrite fun c loc hc hcap => ?_
  refine sound_respond (unsetPermission_honest _ _) fun c' hc' hlim r hr => ?_
  cases hc.symm.trans hc'
  obtain ⟨-, hold⟩ := hcap hlim
  unfold unsetPermission at hr
  split_ifs at hr
  · obtain ⟨hmem, hloc, hkey⟩ := mem_held.mp hr
    exact hold r hmem hloc hkey
  · simp at hr

/-- The rows of the destination that a copy removes or overwrites, and those it writes. -/
lemma copyPermissions_touched {P : PermRow → Prop} {loc : PermLoc} {remove : List String}
    {entries : List PermEntry} (hremove : ∀ r ∈ rs.rows, r.loc = loc → r.entry.key ∈ remove → P r)
    (hnew : ∀ e ∈ entries, P ⟨loc, e⟩)
    (hold : ∀ r ∈ rs.rows, r.loc = loc → r.entry.key ∈ entries.map PermEntry.key → P r)
    (ok : Bool) : ∀ r ∈ (copyPermissions rs loc remove entries ok).touched, P r := by
  intro r hr
  unfold copyPermissions at hr
  split_ifs at hr
  · rcases mem_append.mp hr with hr | hr
    · exact unsetAll_touched hremove r hr
    · refine setAll_touched hnew (fun r' hr' => ?_) r hr
      exact hold r' (unsetAll_subset remove hr')
  · simp at hr

lemma doPermCopyLocked_sound {c : PermChecker} (hc : pc = some c) (source dest : PermLoc)
    (replace : Bool) : Sound pc rs (doPermCopyLocked rs f c source dest replace) := by
  unfold doPermCopyLocked
  split_ifs
  · exact sound_refuse _
  simp only
  split
  · exact sound_refuse _
  rename_i hsrc
  split
  · exact sound_refuse _
  rename_i hcleared
  refine sound_respond (copyPermissions_honest _ _ _) fun c' hc' hlim => ?_
  cases hc.symm.trans hc'
  simp only [List.find?_eq_none, Bool.not_eq_true', Bool.not_eq_false] at hsrc hcleared
  obtain ⟨hnew, hold⟩ := capped_of_batch hlim (covers_indexByKey rs dest) hsrc
  refine copyPermissions_touched ?_ hnew hold _
  -- a cleared row is an entry of the destination, and each was capped
  rintro ⟨loc, e⟩ hr rfl hkey
  obtain ⟨e', he', hkey'⟩ := mem_map.mp hkey
  have hdst : e' ∈ f.replaceOrder.order (listPermissions rs loc) := by grind [clearedEntries]
  rw [(f.replaceOrder.perm _).mem_iff, mem_listPermissions] at hdst
  obtain rfl := entry_unique hdst hr hkey'
  exact capped_of_grantCapOk hlim (hcleared e' he')

lemma handlePermCopy_sound (msg : PermCopy) :
    Sound pc rs (handlePermCopy lookupUser rs pc f msg) := by
  refine sound_gated fun c hc => ?_
  split
  · exact sound_refuse _
  · split
    · exact sound_refuse _
    · split_ifs
      · exact sound_refuse _
      · exact doPermCopyLocked_sound f hc _ _ _

lemma handlePermTemplateApply_sound (msg : PermTemplateApply) :
    Sound pc rs (handlePermTemplateApply lookupUser rs pc f msg) := by
  unfold handlePermTemplateApply
  split
  · exact sound_refuse _
  rename_i tmpl _
  refine sound_gated fun c hc => ?_
  split
  · exact sound_refuse _
  split_ifs
  · exact sound_refuse _
  split
  · exact sound_refuse _
  rename_i hcur
  split
  · exact sound_refuse _
  rename_i hcap
  refine sound_respond (applyTemplate_honest f _) fun c' hc' hlim => ?_
  cases hc.symm.trans hc'
  -- both loops visit the same entries
  simp only [List.find?_eq_none, Bool.not_eq_true', Bool.not_eq_false,
    (f.checkOrder.perm tmpl).mem_iff, ← (f.writeOrder.perm tmpl).mem_iff] at hcap
  obtain ⟨hnew, hold⟩ := capped_of_batch hlim (covers_currentPerms hlim hcur) hcap
  exact applyTemplate_touched f hnew hold

/-- **Every request of the write path is sound.** -/
theorem handlePerm_sound (req : PermRequest) : Sound pc rs (handlePerm lookupUser rs pc f req) := by
  cases req with
  | set msg => exact handlePermSet_sound lookupUser f msg
  | unset msg => exact handlePermUnset_sound lookupUser f msg
  | copy msg => exact handlePermCopy_sound lookupUser f msg
  | templateApply msg => exact handlePermTemplateApply_sound lookupUser f msg

end requests

/-! ## The cap -/

/-- **The grant cap.** For every request by a caller who is neither admin nor exempt: if it is
accepted, every row it writes, overwrites or removes has a value and a grant within the caller's own
grant for the row's key, and all other rows are unchanged; if the cap refuses it, no row of any
target is changed. -/
theorem accepted_within_grant (lookupUser : String → Option Int) (rs : PermRows) (pc : PermChecker)
    (f : Faults) (req : PermRequest) (hadmin : pc.admin = false)
    (hignore : pc.granted permissionModifyPowerIgnore = false) :
    ((handlePerm lookupUser rs (some pc) f req).result = .ok () →
      (∀ r ∈ (handlePerm lookupUser rs (some pc) f req).touched, ∃ own,
        pc.own r.entry.key = some own ∧ r.entry.value ≤ own.grant ∧ r.entry.grant ≤ own.grant) ∧
      ∀ r, r ∉ (handlePerm lookupUser rs (some pc) f req).touched →
        (r ∈ (handlePerm lookupUser rs (some pc) f req).rows.rows ↔ r ∈ rs.rows)) ∧
    ∀ message, (handlePerm lookupUser rs (some pc) f req).result = .error (.capExceeded message) →
      (handlePerm lookupUser rs (some pc) f req).rows = rs := by
  have hsound : Sound (some pc) rs (handlePerm lookupUser rs (some pc) f req) :=
    handlePerm_sound lookupUser f req
  exact ⟨fun _ => ⟨hsound.capped pc rfl ⟨hadmin, hignore⟩, hsound.honest⟩, hsound.refused⟩

/-- An operator of server group 7: may manage permissions, and may hand out `i_client_move_power` up
to 50. -/
def operator : PermChecker where
  tp := (∅ : TieredPermissions).insert .serverGroup
    (((∅ : PermissionSet).set ⟨permissionManage, .boolean, 1, 0, false, false⟩).set
      ⟨"i_client_move_power", .integer, 60, 50, false, false⟩)
  admin := false

/-- One stored row: server group 9 holds `i_client_move_power` 40. -/
def operatorRows : PermRows :=
  empty.put (.serverGroup 9) ⟨"i_client_move_power", 40, 0, false, false⟩

/-- The operator raises the group's power from 40 to 50, its own grant. -/
theorem accepted_within_grant_operator :
    (handlePerm (fun _ => none) operatorRows (some operator) {} (.set
      { tier := "server_group", groupID := 9, key := "i_client_move_power", value := 50 })).result =
        .ok () ∧
      ∀ r ∈ (handlePerm (fun _ => none) operatorRows (some operator) {} (.set
        { tier := "server_group", groupID := 9, key := "i_client_move_power", value := 50 })).touched,
        ∃ own, operator.own r.entry.key = some own ∧ r.entry.value ≤ own.grant ∧
          r.entry.grant ≤ own.grant :=
  ⟨rfl, ((accepted_within_grant _ _ _ _ _ (by decide) (by decide)).1 rfl).1⟩

end Voicx.Server
