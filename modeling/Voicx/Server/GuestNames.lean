import Voicx.Server.Login

/-!
# The nicknames of guests

A guest gets a nickname that no authenticated client has: `dedupeNickname` reads the clients one by
one, and `setIdentity` takes the name later, without the lock of the scan.

* `Registry.step` — the reads of the scans, their choices, the ends of the logins, disconnections.
* `guest_names_unique` — **no guest completes a login under the name of another client** in every
  run in which the guests on their way see the names that are taken meanwhile.

Of a login only the nickname is here (see `LoginWorld`). All connections are there from the start,
and they may break during a scan.
Source names without a file are from `internal/server/handlers.go`.
-/

namespace Voicx.Server.GuestNames

open Found Function List

/-- How far a client is. A scan has the clients it has read and the names it has found. -/
inductive Stage
  | fresh
  | scanning (nickname : String) (visited taken : List String)
  | named (nickname : String)
  | authed (nickname : String)

/-- The guest does not see that a client has a name. -/
def Stage.misses (id nickname : String) : Stage → Bool
  | .scanning _ visited taken => id ∈ visited ∧ nickname ∉ taken
  | .named n => n = nickname
  | .fresh | .authed _ => false

structure Registry where
  clients : List String
  stage : String → Stage

/-- What a client does next. `account` and `claim` are the ends of the logins. -/
inductive Action
  | disconnect
  | account (nickname : String)
  | guest (nickname : String)
  | read (other : String)
  | choose
  | claim

namespace Registry

variable (s : Registry) (id nickname : String)

def set (stage : Stage) : Registry := { s with stage := update s.stage id stage }

/-- What a scan finds at a client. -/
def found : List String :=
  match s.stage id with
  | .authed n => [n]
  | _ => []

/-- Source: `completeAuthForUser`, `completeGuestAuth`, `dedupeNickname`, `finishAuth` -/
def act : Action → Stage → Registry
  | .disconnect, _ => { s with clients := s.clients.filter (· ≠ id) }
  | .account nickname, .fresh => s.set id (.authed nickname)
  | .guest nickname, .fresh =>
    s.set id (.scanning (if nickname = "" then "guest" else nickname) [] [])
  | .read other, .scanning n visited taken =>
    s.set id (.scanning n (other :: visited) (s.found other ++ taken))
  | .choose, .scanning n visited taken =>
    if s.clients ⊆ visited then s.set id (.named (dedupeNickname taken n)) else s
  | .claim, .named n => s.set id (.authed n)
  | _, _ => s

def step (s : Registry) (e : String × Action) : Registry := s.act e.1 e.2 (s.stage e.1)

/-- Every other guest sees that the client takes the name. -/
def seen : Bool := ∀ g ∈ s.clients, g ≠ id → (s.stage g).misses id nickname = false

/-- No login ends behind the scan of a guest, or under the name that a guest has chosen. -/
def endsSeen (s : Registry) (e : String × Action) : Bool :=
  match e.2, s.stage e.1 with
  | .account nickname, _ => s.seen e.1 nickname
  | .claim, .named n => s.seen e.1 n
  | _, _ => true

/-- No other client is authenticated under the name that a guest is about to take. -/
def Unique : Prop := ∀ id ∈ s.clients, ∀ n, s.stage id = .named n →
  ∀ other ∈ s.clients, other ≠ id → s.stage other ≠ .authed n

/-- Every guest sees the names of the other clients. -/
def Sound : Prop := ∀ g ∈ s.clients, ∀ other ∈ s.clients, g ≠ other →
  ∀ name, s.stage other = .authed name → (s.stage g).misses other name = false

variable {s} {id}

lemma Sound.set (h : s.Sound) {stage : Stage}
    (hsees : id ∈ s.clients → ∀ other ∈ s.clients, id ≠ other →
      ∀ name, s.stage other = .authed name → stage.misses other name = false)
    (hseen : ∀ name, stage = .authed name → s.seen id name) : (s.set id stage).Sound := by
  intro g hg other hother hne name hname
  simp only [Registry.set, update_apply] at hname ⊢
  split_ifs at hname ⊢ with hgid ho ho
  · exact absurd (ho.trans hgid.symm).symm hne
  · exact hsees (hgid ▸ hg) other hother (hgid ▸ hne) name hname
  · exact ho ▸ of_decide_eq_true (hseen name hname) g hg hgid
  · exact h g hg other hother hne name hname

lemma Sound.step (h : s.Sound) (e : String × Action) (hok : s.endsSeen e) : (s.step e).Sound := by
  unfold endsSeen at hok
  unfold Registry.step act
  split
  · intro g hg other hother
    exact h g (mem_of_mem_filter hg) other (mem_of_mem_filter hother)
  · rename_i haction hstage
    rw [haction] at hok
    exact h.set (fun _ _ _ _ _ _ => rfl) (by rintro _ ⟨⟩; exact hok)
  · exact h.set (by simp [Stage.misses]) nofun
  · rename_i hstage
    refine h.set (fun hid o ho hne name hname => ?_) nofun
    have hold := h _ hid o ho hne name hname
    grind [Stage.misses, found]
  · rename_i hstage
    split_ifs with hall
    · refine h.set (fun hid o ho hne name hname => ?_) nofun
      have hold := h _ hid o ho hne name hname
      grind [Stage.misses, dedupeNickname_not_taken]
    · exact h
  · rename_i haction hstage
    rw [haction, hstage] at hok
    exact h.set (fun _ _ _ _ _ _ => rfl) (by rintro _ ⟨⟩; exact hok)
  · exact h

end Registry

open Registry

/-- **No guest completes a login under the name of another client**, in every run in which no login
ends behind the scan of a guest or under the name that a guest has chosen. -/
theorem guest_names_unique (clients : List String) (actions : List (String × Action))
    (hok : StepsOK step (fun s e => s.endsSeen e) ⟨clients, fun _ => .fresh⟩ actions) :
    Throughout step Unique ⟨clients, fun _ => .fresh⟩ actions := by
  have hstart : Registry.Sound ⟨clients, fun _ => .fresh⟩ := nofun
  refine (throughout_of_stepsOK (fun s e h => h.step e) hstart hok).mono ?_
  intro s h id hid n hnamed other hother hne hauthed
  have hmiss := h id hid other hother hne.symm n hauthed
  simp [hnamed, Stage.misses] at hmiss

/-- A guest logs in after another one. -/
theorem second_guest_numbered :
    let start := ⟨["a", "b"], fun _ => .fresh⟩
    let actions := [("a", .guest ""), ("a", .read "a"), ("a", .read "b"), ("a", .choose),
      ("a", .claim), ("b", .guest ""), ("b", .read "a"), ("b", .read "b"), ("b", .choose)]
    StepsOK step (fun s e => s.endsSeen e) start actions ∧ Unique (run step start actions) ∧
      (run step start actions).stage "b" = .named "guest#2" :=
  have hok : StepsOK step (fun s e => s.endsSeen e) ⟨["a", "b"], _⟩ _ := by decide +kernel
  ⟨hok, (guest_names_unique _ _ hok).final, rfl⟩

/-- Two guests scan before either of them has its name. -/
theorem two_guests_one_name :
    let s := run step ⟨["a", "b"], fun _ => .fresh⟩ [("a", .guest ""), ("b", .guest ""),
      ("a", .read "a"), ("a", .read "b"), ("b", .read "a"), ("b", .read "b"), ("a", .choose),
      ("b", .choose), ("a", .claim), ("b", .claim)]
    s.clients = ["a", "b"] ∧ s.stage "a" = .authed "guest" ∧ s.stage "b" = .authed "guest" :=
  ⟨rfl, rfl, rfl⟩

end Voicx.Server.GuestNames
