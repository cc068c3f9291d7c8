import Voicx.Server.PreKeys

/-!
# The identity of a bundle and its one-time prekey

A query reads the bundle and the one-time prekey with two statements, and a publication replaces the
bundle but only those one-time prekeys whose ids it uses again.

* `PublishedTogether`, `Consistent` — the prekey of an answer was published with its identity.
* `MixesIdentities` — a publication of a new identity while prekeys of the old one are left, or
  while a query is between its two reads.
* `Together` — the invariant: what is stored for a user was published with the user's identity.
* **`bundles_consistent`** — where no publication mixes identities, answers are consistent.
-/

namespace Voicx.Server.PreKeys

open Found E2EE Protocol List Symbolic

/-! ## Bundles are consistent -/

section together

variable {K : Type} {log : List (ℕ × Tx K)} {db : PreKeyDB K} {i : ℕ} {t t' : Tx K}
  {rows : List Row} {free : Row → Bool} {bundle bundle' : BundleRow K} {key : KeyRow K}
  {s : System (PreKeyDB K) Row (Tx K)}

/-- The one-time prekey was published with the identity of the bundle. -/
def PublishedTogether (log : List (ℕ × Tx K)) (bundle : BundleRow K) (key : KeyRow K) : Prop :=
  ∃ p ∈ publications log, p.userID = bundle.userID ∧ p.msg.identityDH = bundle.identityDH ∧
    ⟨key.keyID, key.publicKey⟩ ∈ p.msg.oneTimePreKeys

/-- Every answer holds a bundle and a one-time prekey that were published together. -/
def Consistent (log : List (ℕ × Tx K)) : Prop :=
  ∀ e ∈ log, ∀ bundle key, e.2.stage = .answer bundle (some key) → PublishedTogether log bundle key

/-- The move commits a publication with a new identity while a one-time prekey of the old one is
left that it does not replace, or while a query has read the old bundle and not yet a prekey. -/
def MixesIdentities (s : System (PreKeyDB K) Row (Tx K)) (m : Move (Tx K) Unit) : Prop :=
  ∃ p ∈ publishing s m,
    (∃ bundle ∈ s.store.bundles, bundle.userID = p.userID ∧
      bundle.identityDH ≠ p.msg.identityDH ∧
      ∃ key ∈ s.store.keys, key.userID = p.userID ∧ key.oneTime = true ∧ key.consumed = false ∧
        ∀ new ∈ p.msg.oneTimePreKeys, new.keyID ≠ key.keyID) ∨
    ∃ j u bundle, s.active j = some u ∧ u.stage = .selectKey bundle ∧
      bundle.userID = p.userID ∧ bundle.identityDH ≠ p.msg.identityDH

lemma PublishedTogether.mono (h : PublishedTogether log bundle key) (e : ℕ × Tx K) :
    PublishedTogether (log ++ [e]) bundle key := by
  obtain ⟨p, hp, hrest⟩ := h
  refine ⟨p, ?_, hrest⟩
  rw [publications, filterMap_append]
  exact mem_append_left _ hp

lemma PublishedTogether.congr (h : PublishedTogether log bundle key)
    (huser : bundle.userID = bundle'.userID) (hidentity : bundle.identityDH = bundle'.identityDH) :
    PublishedTogether log bundle' key := by
  obtain ⟨p, hp, huser', hidentity', hkey⟩ := h
  exact ⟨p, hp, huser'.trans huser, hidentity'.trans hidentity, hkey⟩

variable {p : Publication K} {B C : Type}

/-- What an open query has read: a bundle whose identity is still the stored one, or a prekey that
was published with the bundle. -/
structure ReadsTogether (log : List (ℕ × Tx K)) (db : PreKeyDB K) (t : Tx K) : Prop where
  reading : ∀ bundle, t.stage = .selectKey bundle →
    ∃ bundle' ∈ db.bundles, bundle'.userID = bundle.userID ∧
      bundle'.identityDH = bundle.identityDH
  picked : ∀ bundle key, t.stage = .update bundle key ∨ t.stage = .answer bundle (some key) →
    PublishedTogether log bundle key

/-- The invariant: what is stored for a user was published with the identity of the user's bundle,
and so was what open queries have read and what queries were answered with. -/
structure Together (s : System (PreKeyDB K) Row (Tx K)) : Prop where
  hasBundle : ∀ key ∈ s.store.keys, ∃ bundle ∈ s.store.bundles, bundle.userID = key.userID
  stored : ∀ key ∈ s.store.keys, key.oneTime = true → key.consumed = false →
    ∀ bundle ∈ s.store.bundles, bundle.userID = key.userID → PublishedTogether s.log bundle key
  reads : ∀ j u, s.active j = some u → ReadsTogether s.log s.store u
  answered : Consistent s.log

lemma together_idle : Together (System.idle {} : System (PreKeyDB K) Row (Tx K)) where
  hasBundle _ h := absurd h not_mem_nil
  stored _ h := absurd h not_mem_nil
  reads _ _ h := by cases h
  answered _ h := absurd h not_mem_nil

lemma Together.finish (h : Together s) (i : ℕ) : Together (s.finish i) where
  hasBundle := h.hasBundle
  stored := h.stored
  reads j u hj := by
    simp only [System.finish, Function.update_apply] at hj
    split_ifs at hj
    exact h.reads j u hj
  answered := h.answered

lemma Together.advance (h : Together s) {i : ℕ} (ht : ReadsTogether s.log s.store t)
    (rows : List Row) : Together (s.advance i t rows) where
  hasBundle := h.hasBundle
  stored := h.stored
  reads j u hj := by
    simp only [System.advance, Function.update_apply] at hj
    split_ifs at hj
    · cases hj
      exact ht
    · exact h.reads j u hj
  answered := h.answered

variable {c : Primitives K B C}

/-- A statement of a query reads what belongs together. -/
lemma Together.readsTogether_next (h : Together s) (hheld : Held s.store t rows) {i : ℕ}
    (hi : s.active i = some t) (hnext : PreKeys.next s.store free t = some t') :
    ReadsTogether s.log s.store t' := by
  have ht := h.reads i t hi
  cases next_cases hnext with
  | published | answered => exact ht
  | publishBundle | publishKey => exact ⟨nofun, nofun⟩
  | @selectBundle userID bundle ws hbundle =>
    obtain rfl : ws = [] := hheld
    refine ⟨?_, nofun⟩
    rintro bundle' ⟨⟩
    exact ⟨bundle, hbundle, rfl, rfl⟩
  | noKey => exact ⟨nofun, nofun⟩
  | @pick bundle key ws hkey =>
    obtain rfl : ws = [] := hheld
    refine ⟨nofun, ?_⟩
    rintro bundle' key' (⟨⟨⟩⟩ | ⟨⟨⟩⟩)
    obtain ⟨bundle', hbundle', huser, hidentity⟩ := ht.reading bundle rfl
    obtain ⟨hmem, hkuser, hone, hconsumed⟩ := available_of_firstFree hkey
    exact (h.stored key hmem hone hconsumed bundle' hbundle' (huser.trans hkuser.symm)).congr
      huser hidentity
  | update bundle key ws =>
    refine ⟨nofun, ?_⟩
    rintro bundle' key' (⟨⟨⟩⟩ | ⟨⟨⟩⟩)
    exact ht.picked bundle key (.inl rfl)

lemma Consistent.mono (h : Consistent log)
    (ht : ∀ bundle key, t.stage = .answer bundle (some key) → PublishedTogether log bundle key) :
    Consistent (log ++ [(i, t)]) := by
  intro e he bundle key hstage
  rcases mem_append.mp he with he | he
  · exact (h e he bundle key hstage).mono (i, t)
  · rw [mem_singleton.mp he] at hstage
    exact (ht bundle key hstage).mono (i, t)

/-- The bundles after a publication: the user's is the published one. -/
lemma mem_bundles_publish :
    bundle ∈ (p.writes.foldl put db).bundles ↔
      bundle = p.bundleRow ∨ bundle ∈ db.bundles ∧ bundle.userID ≠ p.userID := by
  rw [bundles_foldl_writes, mem_upsert]
  rfl

/-- What is stored after a publication belongs together: what was left of the user's prekeys was
published with the same identity, or is replaced. -/
lemma Together.stored_publish (h : Together s) (hi : s.active i = some t)
    (hstage : t.stage = .publishKeys p []) (hm : ¬MixesIdentities s (.commit i))
    (hkey : key ∈ (p.writes.foldl put s.store).keys) (hone : key.oneTime = true)
    (hconsumed : key.consumed = false) (hbundle : bundle ∈ (p.writes.foldl put s.store).bundles)
    (huser : bundle.userID = key.userID) : PublishedTogether (s.log ++ [(i, t)]) bundle key := by
  rcases mem_keys_foldl_put hkey with hwritten | ⟨hold, hkept⟩
  · obtain ⟨new, hnew, rfl⟩ := key_mem_writes.mp hwritten
    rcases mem_bundles_publish.mp hbundle with rfl | ⟨-, hne⟩
    · refine ⟨p, ?_, rfl, rfl, hnew⟩
      rw [publications, filterMap_append]
      exact mem_append_right _ (by simp [hstage])
    · exact absurd huser hne
  rcases mem_bundles_publish.mp hbundle with rfl | ⟨hbundle, hne⟩
  · obtain ⟨old, hold', huser'⟩ := h.hasBundle key hold
    have huser₁ : old.userID = p.userID := huser'.trans huser.symm
    by_cases hidentity : old.identityDH = p.msg.identityDH
    · have htogether : PublishedTogether s.log p.bundleRow key :=
        (h.stored key hold hone hconsumed old hold' huser').congr huser₁ hidentity
      exact htogether.mono (i, t)
    · -- the new identity replaces every prekey that is left
      refine absurd ⟨p, publishing_commit hi hstage, .inl ⟨old, hold', huser₁, hidentity, key,
        hold, huser.symm, hone, hconsumed, fun new hnew heq => ?_⟩⟩ hm
      refine hkept (p.keyRow new) (key_mem_writes.mpr ⟨new, hnew, rfl⟩) ?_
      exact Prod.ext huser heq
  · exact (h.stored key hold hone hconsumed bundle hbundle huser).mono (i, t)

/-- **A publication** that mixes no identities. -/
theorem Together.publish (h : Together s) (hi : s.active i = some t)
    (hstage : t.stage = .publishKeys p []) (hm : ¬MixesIdentities s (.commit i)) :
    Together { s.finish i with
      store := p.writes.foldl put s.store, log := s.log ++ [(i, t)] } where
  hasBundle key hkey := by
    rcases mem_keys_foldl_put hkey with hwritten | ⟨hold, -⟩
    · obtain ⟨new, -, rfl⟩ := key_mem_writes.mp hwritten
      exact ⟨p.bundleRow, mem_bundles_publish.mpr (.inl rfl), rfl⟩
    · obtain ⟨old, hold', huser⟩ := h.hasBundle key hold
      by_cases heq : old.userID = p.userID
      · exact ⟨p.bundleRow, mem_bundles_publish.mpr (.inl rfl), heq.symm.trans huser⟩
      · exact ⟨old, mem_bundles_publish.mpr (.inr ⟨hold', heq⟩), huser⟩
  stored _ hkey hone hconsumed _ hbundle huser :=
    h.stored_publish hi hstage hm hkey hone hconsumed hbundle huser
  reads j u hj := by
    have hj' : s.active j = some u := by
      simp only [System.finish, Function.update_apply] at hj
      split_ifs at hj
      exact hj
    have hu := h.reads j u hj'
    refine ⟨fun bundle hb => ?_, fun bundle key hk => (hu.picked bundle key hk).mono (i, t)⟩
    obtain ⟨old, hold, huser, hidentity⟩ := hu.reading bundle hb
    by_cases heq : old.userID = p.userID
    · -- a query in between has read the identity that is published
      refine ⟨p.bundleRow, mem_bundles_publish.mpr (.inl rfl), heq.symm.trans huser, ?_⟩
      by_contra hne
      exact hm ⟨p, publishing_commit hi hstage, .inr ⟨j, u, bundle, hj', hb,
        huser.symm.trans heq, fun heq' => hne heq'.symm⟩⟩
    · exact ⟨old, mem_bundles_publish.mpr (.inr ⟨hold, heq⟩), huser, hidentity⟩
  answered := h.answered.mono fun bundle key hk => by simp [hstage] at hk

/-- **An answer.** -/
theorem Together.answer (h : Together s) (hi : s.active i = some t)
    (havailable : Available s.store bundle key) :
    Together { s.finish i with
      store := put s.store (.key { key with consumed := true }), log := s.log ++ [(i, t)] } where
  hasBundle key' hkey' := by
    rcases mem_upsert.mp hkey' with rfl | ⟨hold, -⟩
    · exact h.hasBundle key havailable.1
    · exact h.hasBundle key' hold
  stored key' hkey' hone hconsumed bundle' hbundle' huser := by
    rcases mem_upsert.mp hkey' with rfl | ⟨hold, -⟩
    · cases hconsumed
    · exact (h.stored key' hold hone hconsumed bundle' hbundle' huser).mono (i, t)
  reads j u hj := by
    have hu := (h.finish i).reads j u hj
    exact ⟨hu.reading, fun bundle' key' hk => (hu.picked bundle' key' hk).mono (i, t)⟩
  answered := h.answered.mono fun bundle' key' hk => (h.reads i t hi).picked bundle' key' (.inr hk)

/-- An answer without a prekey. -/
lemma Together.answer_none (h : Together s) (hstage : t.stage = .answer bundle none) :
    Together { s.finish i with log := s.log ++ [(i, t)] } where
  hasBundle := h.hasBundle
  stored key hkey hone hconsumed bundle' hbundle' huser :=
    (h.stored key hkey hone hconsumed bundle' hbundle' huser).mono (i, t)
  reads j u hj := by
    have hu := (h.finish i).reads j u hj
    exact ⟨hu.reading, fun bundle' key hk => (hu.picked bundle' key hk).mono (i, t)⟩
  answered := h.answered.mono fun bundle' key hk => by simp [hstage] at hk

/-- **One move** that mixes no identities. -/
theorem Together.step [Inhabited K] (hcovered : Covered (fun _ => True) Held s) (h : Together s)
    {m : Move (Tx K) Unit} (hm : ¬MixesIdentities s m) : Together ((preKeys c).step s m) := by
  rcases (preKeys c).step_cases s m with heq | ⟨i, heq⟩ | ⟨i, t, hinit, heq⟩ |
      ⟨i, t, t', input, -, hi, hnext, -, heq⟩ | ⟨i, t, rfl, hi, hdone, heq⟩
  · rwa [heq]
  · rw [heq]
    exact h.finish i
  · rw [heq]
    obtain ⟨-, hstage⟩ := Bool.and_eq_true_iff.mp hinit
    refine h.advance ⟨fun bundle heq => ?_, ?_⟩ []
    · simp [heq] at hstage
    · rintro bundle key (heq | heq) <;> simp [heq] at hstage
  · rw [heq]
    obtain ⟨rows, hheld, -⟩ := hcovered.valid i t hi
    exact h.advance (h.readsTogether_next hheld hi hnext) _
  · rw [heq]
    obtain ⟨rows, hheld, -⟩ := hcovered.valid i t hi
    show Together { s.finish i with store := t.writes.foldl put s.store, log := s.log ++ [(i, t)] }
    rcases hheld.done_cases hdone with ⟨p, hstage, hwrites⟩ | ⟨bundle, hstage, hwrites⟩ |
        ⟨bundle, key, hstage, hwrites, havailable⟩
    · rw [hwrites]
      exact h.publish hi hstage hm
    · rw [hwrites]
      exact h.answer_none hstage
    · rw [hwrites]
      exact h.answer hi havailable

/-- **Prekey bundles are consistent.** In every interleaving of publications and queries from empty
tables in which no publication mixes identities, every answer holds a bundle and a one-time prekey
that were published together. -/
theorem bundles_consistent [Inhabited K] (c : Primitives K B C) {moves : List (Move (Tx K) Unit)}
    (hmoves : StepsOK (preKeys c).step (fun s m => ¬MixesIdentities s m) (System.idle {}) moves) :
    Throughout (preKeys c).step (fun s => Consistent s.log) (System.idle {}) moves := by
  have hstep : ∀ s m, Covered (fun _ => True) Held s ∧ Together s → ¬MixesIdentities s m →
      Covered (fun _ => True) Held ((preKeys c).step s m) ∧ Together ((preKeys c).step s m) :=
    fun s m h hm => ⟨(framed_preKeys c).step h.1 m, h.2.step h.1 hm⟩
  have hinv := throughout_of_stepsOK hstep ⟨covered_idle trivial, together_idle⟩ hmoves
  exact hinv.mono fun s h => h.2.answered

end together

/-! ### A reinstalled client -/

/-- The client's only prekey is used up when it is about to publish a new identity. -/
def reinstalling : List (Move (Tx Term) Unit) :=
  publishes 0 (publication 1 [9]) ++ queries 1 ++ writesAll 2 (publication 2 [10])

def reinstalled : List (Move (Tx Term) Unit) := reinstalling ++ (.commit 2 :: queries 3)

/-- The answers: the identities and the one-time prekeys. -/
def answers (log : List (ℕ × Tx Term)) : List (Term × Option Term) :=
  log.filterMap fun e => match e.2.stage with
    | .answer bundle key => some (bundle.identityDH, key.map KeyRow.publicKey)
    | _ => none

theorem bundles_consistent_reinstalled :
    StepsOK (preKeys (primitives ℕ)).step (fun s m => ¬MixesIdentities s m)
        (System.idle {}) reinstalled ∧
      Consistent (after reinstalled).log ∧
      answers (after reinstalled).log = [(.pub 1, some (.pub 109)), (.pub 2, some (.pub 210))] := by
  have hmoves : StepsOK (preKeys (primitives ℕ)).step (fun s m => ¬MixesIdentities s m)
      (System.idle {}) reinstalled := by
    have hquiet : ∀ (s : System (PreKeyDB Term) Row (Tx Term)) m,
        publishing s m = none → ¬MixesIdentities s m := by
      rintro s m hnone ⟨p, hp, -⟩
      rw [hnone] at hp
      cases hp
    have hfirst : ¬MixesIdentities (after (writesAll 0 (publication 1 [9]))) (.commit 0) := by
      rintro ⟨p, -, ⟨bundle, hbundle, -⟩ | ⟨j, u, bundle, hj, hstage, -⟩⟩
      · cases hbundle
      · rcases j with _ | j
        · cases hj
          cases hstage
        · cases hj
    have hsecond : ¬MixesIdentities (after reinstalling) (.commit 2) := by
      rintro ⟨p, -, ⟨bundle, -, -, -, key, hkey, -, -, hconsumed, -⟩ |
        ⟨j, u, bundle, hj, hstage, -⟩⟩
      · have hall : ∀ key ∈ (after reinstalling).store.keys, key.consumed = true := by
          decide +kernel
        rw [hall key hkey] at hconsumed
        cases hconsumed
      · rcases j with _ | _ | _ | j
        · cases hj
        · cases hj
        · cases hj
          cases hstage
        · cases hj
    refine (stepsOK_append _ _ _).mpr ⟨(stepsOK_append _ _ _).mpr ⟨(stepsOK_append _ _ _).mpr
      ⟨(stepsOK_append _ _ _).mpr ⟨?_, hfirst, trivial⟩, ?_⟩, ?_⟩, hsecond, ?_⟩
    all_goals
      refine StepsOK.mono hquiet ?_
      decide +kernel
  exact ⟨hmoves, (bundles_consistent (primitives ℕ) hmoves).final, by decide +kernel⟩

/-- A prekey of the old identity is left when the client is installed again. -/
def reinstalledEarly : List (Move (Tx Term) Unit) :=
  publishes 0 (publication 1 [9]) ++ publishes 1 (publication 2 [10]) ++ queries 2

/-- The new identity is handed out with the old prekey. -/
theorem reinstall_mixes_identities :
    answers (after reinstalledEarly).log = [(.pub 2, some (.pub 109))] ∧
      ¬Consistent (after reinstalledEarly).log := by
  refine ⟨by decide +kernel, fun h => ?_⟩
  have hanswer : ((after reinstalledEarly).log.getLast?.map fun e => e.2.stage) =
      some (.answer (publication 2 []).bundleRow
        (some ((publication 1 []).keyRow ⟨9, .pub 109⟩))) := by
    decide +kernel
  obtain ⟨e, hlast, hstage⟩ := Option.map_eq_some_iff.mp hanswer
  obtain ⟨p, hp, -, hidentity, hkey⟩ := h e (mem_of_getLast? hlast) _ _ hstage
  have hpublished : ∀ p ∈ publications (after reinstalledEarly).log,
      ⟨9, .pub 109⟩ ∈ p.msg.oneTimePreKeys → p.msg.identityDH = .pub 1 := by
    decide +kernel
  rw [hpublished p hp hkey] at hidentity
  cases hidentity

/-- The client is installed again between the two reads of a query, when no prekey was left: the old
identity is handed out with a prekey of the new one. -/
theorem interleaved_read_mixes_identities :
    answers (after (publishes 0 (publication 1 []) ++
        [.start 1 { stage := .selectBundle 1 }, .statement 1 ()] ++
        publishes 2 (publication 2 [10]) ++ [.statement 1 (), .statement 1 (), .commit 1])).log =
      [(.pub 1, some (.pub 210))] := by
  decide +kernel

end Voicx.Server.PreKeys
