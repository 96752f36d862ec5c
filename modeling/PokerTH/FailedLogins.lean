import PokerTH.LobbyRun

namespace PokerTH.Lobby

namespace FailedLoginMap

variable {m m' : FailedLoginMap} {a b : Address} {e : FailedLoginEntry} {now : Int}

def Distinct (m : FailedLoginMap) : Prop := (m.map fun entry => entry.1).Nodup

theorem Distinct.sublist (hd : Distinct m) (hs : List.Sublist m' m) : Distinct m' := List.Nodup.sublist (hs.map _) hd

theorem mem_of_lookup (hl : m.lookup a = some e) : (a, e) ∈ m := by
  induction m with
  | nil => cases hl
  | cons entry m ih =>
      rw [List.lookup_cons] at hl
      split at hl
      · next heq =>
          cases hl
          rw [beq_iff_eq.mp heq]
          exact List.mem_cons_self
      · exact List.mem_cons_of_mem _ (ih hl)

theorem lookup_eq_some (hd : Distinct m) : m.lookup a = some e ↔ (a, e) ∈ m := by
  refine ⟨mem_of_lookup, fun hmem => ?_⟩
  induction m with
  | nil => cases hmem
  | cons entry m ih =>
      obtain ⟨hnot, hrest⟩ := List.nodup_cons.mp hd
      rw [List.lookup_cons]
      rcases List.mem_cons.mp hmem with rfl | hmem
      · simp
      · have hne : (a == entry.1) = false := by
          rw [beq_eq_false_iff_ne]
          rintro rfl
          exact hnot (List.mem_map_of_mem (f := fun entry => entry.1) hmem)
        rw [hne]
        exact ih hrest hmem

theorem lookup_of_sublist (hd : Distinct m) (hs : List.Sublist m' m) (hl : m'.lookup a = some e) : m.lookup a = some e :=
  (lookup_eq_some hd).mpr (hs.subset (mem_of_lookup hl))

theorem lookup_filter (hd : Distinct m) (p : Address × FailedLoginEntry → Bool) :
    List.lookup a (List.filter p m) = (m.lookup a).filter fun e => p (a, e) := by
  refine Option.ext fun e => ?_
  rw [lookup_eq_some (hd.sublist List.filter_sublist), Option.filter_eq_some_iff, lookup_eq_some hd]
  exact List.mem_filter

theorem lookup_erase (hd : Distinct m) : (erase m a).lookup b = if b = a then none else m.lookup b := by
  rw [erase, lookup_filter hd]
  split_ifs with hb
  · subst hb
    cases m.lookup b <;> simp
  · cases m.lookup b <;> simp [hb]

theorem Distinct.erase (hd : Distinct m) : Distinct (erase m a) := hd.sublist List.filter_sublist

theorem Distinct.set (hd : Distinct m) : Distinct (set m a e) := by
  have hperm : (FailedLoginMap.set m a e).Perm ((a, e) :: FailedLoginMap.erase m a) := List.perm_orderedInsert _ _ _
  refine (hperm.map _).nodup_iff.mpr (List.nodup_cons.mpr ⟨?_, hd.sublist List.filter_sublist⟩)
  simp [FailedLoginMap.erase]

theorem lookup_set (hd : Distinct m) : (set m a e).lookup b = if b = a then some e else m.lookup b := by
  have hmem (f : FailedLoginEntry) : (b, f) ∈ FailedLoginMap.set m a e ↔ (b, f) = (a, e) ∨ (b, f) ∈ erase m a :=
    (List.perm_orderedInsert _ _ _).mem_iff.trans List.mem_cons
  refine Option.ext fun f => ?_
  rw [lookup_eq_some hd.set, hmem, ← lookup_eq_some hd.erase, lookup_erase hd]
  split_ifs with hb
  · simp [hb, eq_comm]
  · simp [hb]

theorem eraseOldest_sublist : ∀ m : FailedLoginMap, List.Sublist (eraseOldest m) m
  | [] => List.Sublist.refl _
  | entry :: m => by
      rw [eraseOldest]
      split_ifs
      · exact List.sublist_cons_self entry m
      · exact (eraseOldest_sublist m).cons_cons entry

theorem iterate_eraseOldest_sublist (n : Nat) (m : FailedLoginMap) : List.Sublist (eraseOldest^[n] m) m := by
  induction n generalizing m with
  | zero => exact List.Sublist.refl _
  | succ n ih => exact (ih _).trans (eraseOldest_sublist m)

def recent (m : FailedLoginMap) (now : Int) : FailedLoginMap :=
  if m.length > MAX_FAILED_LOGIN_MAP_SIZE then
    m.filter fun entry => decide (now - entry.2.firstFailTime ≤ MAX_FAILED_LOGIN_RATE_LIMIT_SECONDS)
  else m

theorem recent_sublist (m : FailedLoginMap) (now : Int) : List.Sublist (recent m now) m := by
  rw [recent]
  split_ifs
  · exact List.filter_sublist
  · exact List.Sublist.refl _

theorem evict_cases (m : FailedLoginMap) (now : Int) :
    (recent m now).length ≤ MAX_FAILED_LOGIN_MAP_HARD_LIMIT ∧ evict m now = recent m now ∨
    MAX_FAILED_LOGIN_MAP_HARD_LIMIT < (recent m now).length ∧
      evict m now = eraseOldest^[(recent m now).length - MAX_FAILED_LOGIN_MAP_SIZE] (recent m now) := by
  simp only [evict, recent]
  split_ifs with hsize hhard
  · exact .inr ⟨hhard, rfl⟩
  · exact .inl ⟨not_lt.mp hhard, rfl⟩
  · exact .inl ⟨(not_lt.mp hsize).trans (by decide), rfl⟩

theorem evict_sublist (m : FailedLoginMap) (now : Int) : List.Sublist (evict m now) m := by
  rcases evict_cases m now with ⟨_, he⟩ | ⟨_, he⟩
  · rw [he]
    exact recent_sublist m now
  · rw [he]
    exact (iterate_eraseOldest_sublist _ _).trans (recent_sublist m now)

end FailedLoginMap

inductive LoginRecord
  | failed (clientAddr : Address) (now : Int)
  | accepted (clientAddr : Address) (now : Int)
  | refused (clientAddr : Address) (now : Int)
  deriving DecidableEq, Repr

namespace LoginRecord

/-- The window of an address: its failures since the first of them, up to the login that is accepted. -/
def track (addr : Address) (w : Option FailedLoginEntry) : LoginRecord → Option FailedLoginEntry
  | .failed clientAddr now =>
      if clientAddr = addr then
        match w with
        | none => some ⟨1, now⟩
        | some e =>
            if now - e.firstFailTime < MAX_FAILED_LOGIN_RATE_LIMIT_SECONDS then some { e with count := e.count + 1 }
            else some ⟨1, now⟩
      else w
  | .accepted clientAddr _ => if clientAddr = addr then none else w
  | .refused _ _ => w

def window (addr : Address) (recs : List LoginRecord) : Option FailedLoginEntry := recs.foldl (track addr) none

def tally (addr : Address) (since : Int) (n : Nat) : LoginRecord → Nat
  | .failed clientAddr now => if clientAddr = addr ∧ since ≤ now then n + 1 else n
  | .accepted clientAddr _ => if clientAddr = addr then 0 else n
  | .refused _ _ => n

/-- The failures of an address from the time `since` on, after the last login that was accepted from it. -/
def failures (addr : Address) (since : Int) (recs : List LoginRecord) : Nat := recs.foldl (tally addr since) 0

theorem window_snoc (addr : Address) (recs : List LoginRecord) (r : LoginRecord) :
    window addr (recs ++ [r]) = track addr (window addr recs) r := by
  rw [window, List.foldl_append]
  rfl

theorem failures_snoc (addr : Address) (since : Int) (recs : List LoginRecord) (r : LoginRecord) :
    failures addr since (recs ++ [r]) = tally addr since (failures addr since recs) r := by
  rw [failures, List.foldl_append]
  rfl

end LoginRecord

open LoginRecord

/-- As many failures as the server allows, the first of them less than the time of the limit ago. -/
def Limited (w : Option FailedLoginEntry) (now : Int) : Prop :=
  ∃ e, w = some e ∧ now - e.firstFailTime < MAX_FAILED_LOGIN_RATE_LIMIT_SECONDS ∧ MAX_FAILED_LOGIN_ATTEMPTS ≤ e.count

theorem rateLimited_iff (m : FailedLoginMap) (a : Address) (now : Int) :
    m.rateLimited a now = true ↔ Limited (m.lookup a) now := by
  rw [FailedLoginMap.rateLimited, Limited]
  cases m.lookup a with
  | none => simp
  | some e => simp

theorem lookup_countFailure {m : FailedLoginMap} (hd : m.Distinct) (a b : Address) (now : Int) :
    (m.countFailure a now).lookup b = track b (m.lookup b) (.failed a now) := by
  simp only [FailedLoginMap.countFailure, track]
  by_cases hb : a = b
  · subst hb
    rw [if_pos rfl]
    cases m.lookup a with
    | none => simp [FailedLoginMap.lookup_set hd]
    | some e =>
        dsimp only
        split_ifs
        · simp [FailedLoginMap.lookup_set hd]
        · simp [FailedLoginMap.lookup_set hd]
  · rw [if_neg hb]
    split
    · simp [FailedLoginMap.lookup_set hd, Ne.symm hb]
    · split_ifs
      · simp [FailedLoginMap.lookup_set hd, Ne.symm hb]
      · simp [FailedLoginMap.lookup_set hd, Ne.symm hb]

theorem distinct_countFailure {m : FailedLoginMap} (hd : m.Distinct) (a : Address) (now : Int) :
    (m.countFailure a now).Distinct := by
  simp only [FailedLoginMap.countFailure]
  split
  · exact hd.set
  · split_ifs
    · exact hd.set
    · exact hd.set

/-- The entry of an address is its window, unless the window has passed and the entry is gone. -/
def Matches (now : Int) (entry w : Option FailedLoginEntry) : Prop :=
  entry = w ∨ entry = none ∧ ∃ e, w = some e ∧ MAX_FAILED_LOGIN_RATE_LIMIT_SECONDS ≤ now - e.firstFailTime

section

variable {entry w : Option FailedLoginEntry} {now now' : Int}

theorem Matches.later (hm : Matches now entry w) (hle : now ≤ now') : Matches now' entry w := by
  refine hm.imp_right fun ⟨hnone, e, hw, hpast⟩ => ⟨hnone, e, hw, ?_⟩
  omega

theorem Matches.limited_iff (hm : Matches now entry w) : Limited entry now ↔ Limited w now := by
  rcases hm with rfl | ⟨rfl, e, rfl, hpast⟩
  · rfl
  · refine ⟨fun ⟨f, hf, _⟩ => (nomatch hf), fun ⟨f, hf, hlt, _⟩ => ?_⟩
    cases hf
    omega

theorem Matches.track (hm : Matches now entry w) (addr a : Address) :
    Matches now (track addr entry (.failed a now)) (track addr w (.failed a now)) := by
  rcases hm with rfl | ⟨rfl, e, rfl, hpast⟩
  · exact .inl rfl
  · simp only [LoginRecord.track]
    split_ifs with ha hlt
    · omega
    · exact .inl rfl
    · exact .inr ⟨rfl, e, rfl, hpast⟩

theorem Matches.accepted (hm : Matches now entry w) (addr a : Address) :
    Matches now (if addr = a then none else entry) (LoginRecord.track addr w (.accepted a now)) := by
  simp only [LoginRecord.track]
  split_ifs with h h' h'
  · exact .inl rfl
  · exact absurd h.symm h'
  · exact absurd h'.symm h
  · exact hm

theorem Matches.filter (hm : Matches now entry w) (p : FailedLoginEntry → Bool)
    (hp : ∀ e, p e = false → MAX_FAILED_LOGIN_RATE_LIMIT_SECONDS ≤ now - e.firstFailTime) :
    Matches now (entry.filter p) w := by
  rcases hm with rfl | ⟨rfl, hw⟩
  · cases entry with
    | none => exact .inl rfl
    | some e =>
        cases hpe : p e with
        | true => exact .inl (by simp [hpe])
        | false => exact .inr ⟨by simp [hpe], e, rfl, hp e hpe⟩
  · exact .inr ⟨rfl, hw⟩

end

theorem matches_recent {m : FailedLoginMap} {addr : Address} {w : Option FailedLoginEntry} {now : Int}
    (hd : m.Distinct) (hm : Matches now (m.lookup addr) w) : Matches now ((m.recent now).lookup addr) w := by
  rw [FailedLoginMap.recent]
  split_ifs
  · rw [FailedLoginMap.lookup_filter hd]
    refine hm.filter _ fun e he => ?_
    have hlt := of_decide_eq_false he
    dsimp only at hlt
    omega
  · exact hm

inductive LoginEvent
  | userValid (playerId : Nat) (dbPlayerData : DBPlayerData) (env : Environment)
  | userInvalid (playerId : Nat) (now : Int)
  | timerCleanupRateMaps (now : Int)
  | elsewhere

namespace ServerLobbyThread

def loginSession (l : ServerLobbyThread) (playerId : Nat) : Option (SessionId × SessionData) := do
  let sid ← l.getSessionByUniquePlayerId l.sessionManager playerId true
  let s ← l.sessions sid
  return (sid, s)

/-- What an event tells of a login. Without a password nothing is checked. -/
def loginRecord (l : ServerLobbyThread) : LoginEvent → Option LoginRecord
  | .userValid playerId dbPlayerData env =>
      match l.loginSession playerId with
      | none => none
      | some (_, s) =>
          if dbPlayerData.id ≠ DB_ID_INVALID ∧ s.password = [] then none
          else if dbPlayerData.id = DB_ID_INVALID ∨ s.password = dbPlayerData.secret then
            some (if l.failedLoginMap.rateLimited s.clientAddr env.now then .refused s.clientAddr env.now
              else .accepted s.clientAddr env.now)
          else some (.failed s.clientAddr env.now)
  | .userInvalid playerId now => (l.loginSession playerId).map fun s => .failed s.2.clientAddr now
  | .timerCleanupRateMaps _ => none
  | .elsewhere => none

variable (l : ServerLobbyThread) (c : ServerConfig) (env : Environment)

@[simp] theorem failedLoginMap_setSession (sid : SessionId) (s : SessionData) :
    (l.setSession sid s).failedLoginMap = l.failedLoginMap := rfl

@[simp] theorem failedLoginMap_closeSession (sid : SessionId) : (l.closeSession sid).failedLoginMap = l.failedLoginMap := by
  simp only [closeSession]
  split
  · rfl
  · split_ifs <;> rfl

@[simp] theorem failedLoginMap_sessionError (sid : SessionId) : (l.sessionError sid).failedLoginMap = l.failedLoginMap :=
  failedLoginMap_closeSession l sid

@[simp] theorem failedLoginMap_setSessionState (sid : SessionId) (state : SessionState) :
    (l.setSessionState sid state).failedLoginMap = l.failedLoginMap := by
  simp only [setSessionState]
  split <;> rfl

@[simp] theorem failedLoginMap_internalRemovePlayer (playerId : Nat) :
    (l.internalRemovePlayer env playerId).failedLoginMap = l.failedLoginMap := by
  simp only [internalRemovePlayer]
  split
  · simp
  · split
    · split_ifs <;> simp
    · rfl

@[simp] theorem failedLoginMap_establishSession (sid : SessionId) (s : SessionData) :
    (l.establishSession c env sid s).failedLoginMap = l.failedLoginMap := by
  simp only [establishSession]
  split
  · simp
  · split
    · simp
    · split_ifs <;> simp

theorem userValid_eq (playerId : Nat) (dbPlayerData : DBPlayerData) :
    l.userValid c env playerId dbPlayerData =
      match l.loginSession playerId with
      | none => l
      | some (sid, s) =>
          match l.loginRecord (.userValid playerId dbPlayerData env) with
          | some (.accepted clientAddr _) =>
              ({ l with failedLoginMap := l.failedLoginMap.erase clientAddr }).establishSession c env sid s
          | some (.failed clientAddr now) =>
              ({ l with failedLoginMap := l.failedLoginMap.countFailure clientAddr now }).sessionError sid
          | _ => l.sessionError sid := by
  cases hsid : l.getSessionByUniquePlayerId l.sessionManager playerId true with
  | none => simp [userValid, loginSession, hsid]
  | some sid =>
      cases hs : l.sessions sid with
      | none => simp [userValid, loginSession, hsid, hs]
      | some s =>
          simp only [userValid, loginSession, loginRecord, hsid, hs, Option.bind_eq_bind, Option.bind_some, Option.pure_def]
          split_ifs <;> rfl

theorem userInvalid_eq (playerId : Nat) (now : Int) :
    l.userInvalid playerId now =
      match l.loginSession playerId with
      | none => l
      | some (sid, s) =>
          ({ l with failedLoginMap := (l.failedLoginMap.countFailure s.clientAddr now).evict now }).sessionError sid := by
  cases hsid : l.getSessionByUniquePlayerId l.sessionManager playerId true with
  | none => simp [userInvalid, loginSession, hsid]
  | some sid =>
      cases hs : l.sessions sid with
      | none => simp [userInvalid, loginSession, hsid, hs]
      | some s => simp [userInvalid, loginSession, hsid, hs]

end ServerLobbyThread

/-- The steps of the server and its clock with what they tell of logins. Only an event that `allowed` holds of happens. -/
inductive Logs (c : ServerConfig) (allowed : ServerLobbyThread → LoginEvent → Prop) :
    ServerLobbyThread × Int → List LoginRecord → ServerLobbyThread × Int → Prop
  | userValid {l : ServerLobbyThread} {t : Int} {playerId : Nat} {dbPlayerData : DBPlayerData} {env : Environment}
      (htime : t ≤ env.now) (hallowed : allowed l (.userValid playerId dbPlayerData env)) :
      Logs c allowed (l, t) (l.loginRecord (.userValid playerId dbPlayerData env)).toList
        (l.userValid c env playerId dbPlayerData, env.now)
  | userInvalid {l : ServerLobbyThread} {t : Int} {playerId : Nat} {now : Int} (htime : t ≤ now)
      (hallowed : allowed l (.userInvalid playerId now)) :
      Logs c allowed (l, t) (l.loginRecord (.userInvalid playerId now)).toList (l.userInvalid playerId now, now)
  | timerCleanupRateMaps {l : ServerLobbyThread} {t now : Int} (htime : t ≤ now)
      (hallowed : allowed l (.timerCleanupRateMaps now)) :
      Logs c allowed (l, t) [] (l.timerCleanupRateMaps now, now)
  | elsewhere {l l' : ServerLobbyThread} {t now : Int} (htime : t ≤ now) (hmap : l'.failedLoginMap = l.failedLoginMap)
      (hallowed : allowed l .elsewhere) : Logs c allowed (l, t) [] (l', now)

/-- The map is within the hard limit, or what the limit drops is not the entry of the address. -/
def Keeps (addr : Address) (now : Int) (m : FailedLoginMap) : Prop :=
  (m.recent now).length ≤ MAX_FAILED_LOGIN_MAP_HARD_LIMIT ∨ (m.evict now).lookup addr = (m.recent now).lookup addr

/-- An unknown user may fail unless the clean-up then drops the entry of the address for want of room. -/
def Spared (addr : Address) (l : ServerLobbyThread) : LoginEvent → Prop
  | .userInvalid playerId now => ∀ sid s, l.loginSession playerId = some (sid, s) →
      Keeps addr now (l.failedLoginMap.countFailure s.clientAddr now)
  | _ => True

variable {allowed : ServerLobbyThread → LoginEvent → Prop} {addr : Address} {recs notes : List LoginRecord} {now now' : Int}

structure Windowed (addr : Address) (recs : List LoginRecord) (m : FailedLoginMap) (now : Int) : Prop where
  distinct : m.Distinct
  entry : Matches now (m.lookup addr) (window addr recs)

/-- Each entry is due to as many failures of its address. -/
structure Backed (recs : List LoginRecord) (m : FailedLoginMap) (now : Int) : Prop where
  distinct : m.Distinct
  time : ∀ a e, m.lookup a = some e → e.firstFailTime ≤ now
  count : ∀ a e, m.lookup a = some e → e.count ≤ failures a e.firstFailTime recs

section

variable {m m' : FailedLoginMap} {a : Address}

theorem Windowed.later (hw : Windowed addr recs m now) (hle : now ≤ now') : Windowed addr recs m now' :=
  ⟨hw.distinct, hw.entry.later hle⟩

theorem Windowed.failed (hw : Windowed addr recs m now) (a : Address) :
    Windowed addr (recs ++ [.failed a now]) (m.countFailure a now) now := by
  refine ⟨distinct_countFailure hw.distinct a now, ?_⟩
  rw [lookup_countFailure hw.distinct, window_snoc]
  exact hw.entry.track addr a

theorem Windowed.accepted (hw : Windowed addr recs m now) (a : Address) :
    Windowed addr (recs ++ [.accepted a now]) (m.erase a) now := by
  refine ⟨hw.distinct.erase, ?_⟩
  rw [FailedLoginMap.lookup_erase hw.distinct, window_snoc]
  exact hw.entry.accepted addr a

theorem Windowed.refused (hw : Windowed addr recs m now) (a : Address) :
    Windowed addr (recs ++ [.refused a now]) m now := by
  refine ⟨hw.distinct, ?_⟩
  rw [window_snoc]
  exact hw.entry

theorem Windowed.evict (hw : Windowed addr recs m now)
    (hspared : (m.recent now).length ≤ MAX_FAILED_LOGIN_MAP_HARD_LIMIT ∨
      (m.evict now).lookup addr = (m.recent now).lookup addr) : Windowed addr recs (m.evict now) now := by
  have hrecent := matches_recent hw.distinct hw.entry
  refine ⟨hw.distinct.sublist (FailedLoginMap.evict_sublist m now), ?_⟩
  rcases hspared with hsize | hsame
  · rcases FailedLoginMap.evict_cases m now with ⟨_, he⟩ | ⟨hlarge, _⟩
    · rw [he]
      exact hrecent
    · omega
  · rw [hsame]
    exact hrecent

theorem Backed.later (hb : Backed recs m now) (hle : now ≤ now') : Backed recs m now' :=
  ⟨hb.distinct, fun a e he => (hb.time a e he).trans hle, hb.count⟩

theorem Backed.sublist (hb : Backed recs m now) (hs : List.Sublist m' m) : Backed recs m' now where
  distinct := hb.distinct.sublist hs
  time a e he := hb.time a e (FailedLoginMap.lookup_of_sublist hb.distinct hs he)
  count a e he := hb.count a e (FailedLoginMap.lookup_of_sublist hb.distinct hs he)

theorem Backed.failed (hb : Backed recs m now) (a : Address) :
    Backed (recs ++ [.failed a now]) (m.countFailure a now) now := by
  have hentry (b : Address) (e : FailedLoginEntry) (he : (m.countFailure a now).lookup b = some e) :
      e.firstFailTime ≤ now ∧ e.count ≤ tally b e.firstFailTime (failures b e.firstFailTime recs) (.failed a now) := by
    rw [lookup_countFailure hb.distinct] at he
    simp only [track] at he
    simp only [tally]
    split_ifs at he with hab
    · subst hab
      cases hm : m.lookup a with
      | none =>
          rw [hm] at he
          cases he
          simp
      | some f =>
          have htime := hb.time a f hm
          have hcount := hb.count a f hm
          rw [hm] at he
          dsimp only at he
          split_ifs at he
          · cases he
            refine ⟨htime, ?_⟩
            rw [if_pos ⟨rfl, htime⟩]
            exact Nat.succ_le_succ hcount
          · cases he
            simp
    · rw [if_neg fun h => hab h.1]
      exact ⟨hb.time b e he, hb.count b e he⟩
  refine ⟨distinct_countFailure hb.distinct a now, fun b e he => (hentry b e he).1, fun b e he => ?_⟩
  rw [failures_snoc]
  exact (hentry b e he).2

theorem Backed.accepted (hb : Backed recs m now) (a : Address) :
    Backed (recs ++ [.accepted a now]) (m.erase a) now := by
  have hkept (b : Address) (e : FailedLoginEntry) (he : (m.erase a).lookup b = some e) : b ≠ a ∧ m.lookup b = some e := by
    rw [FailedLoginMap.lookup_erase hb.distinct] at he
    split_ifs at he with hba
    exact ⟨hba, he⟩
  refine ⟨hb.distinct.erase, fun b e he => hb.time b e (hkept b e he).2, fun b e he => ?_⟩
  obtain ⟨hba, he⟩ := hkept b e he
  rw [failures_snoc]
  simp only [tally]
  rw [if_neg hba.symm]
  exact hb.count b e he

theorem Backed.refused (hb : Backed recs m now) (a : Address) : Backed (recs ++ [.refused a now]) m now := by
  refine ⟨hb.distinct, hb.time, fun b e he => ?_⟩
  rw [failures_snoc]
  exact hb.count b e he

end

theorem length_countFailure_le (m : FailedLoginMap) (a : Address) (now : Int) :
    (m.countFailure a now).length ≤ m.length + 1 := by
  have hset (e : FailedLoginEntry) : (m.set a e).length ≤ m.length + 1 := by
    rw [FailedLoginMap.set, List.orderedInsert_length]
    exact Nat.succ_le_succ List.filter_sublist.length_le
  simp only [FailedLoginMap.countFailure]
  split
  · exact hset _
  · split_ifs
    · exact hset _
    · exact hset _

/-- The hard limit matters to no address while there is room for one more. -/
theorem spared_of_length {l : ServerLobbyThread} {e : LoginEvent}
    (hlen : l.failedLoginMap.length < MAX_FAILED_LOGIN_MAP_HARD_LIMIT) : Spared addr l e := by
  cases e with
  | userInvalid playerId now =>
      intro sid s _
      left
      have hrecent := (FailedLoginMap.recent_sublist (l.failedLoginMap.countFailure s.clientAddr now) now).length_le
      have hcount := length_countFailure_le l.failedLoginMap s.clientAddr now
      omega
  | userValid => trivial
  | timerCleanupRateMaps => trivial
  | elsewhere => trivial

/-- What a step makes of the map at the time `now`, where a clean-up is as `kept` says. -/
inductive MapStep (kept : FailedLoginMap → Prop) (m : FailedLoginMap) (now : Int) :
    List LoginRecord → FailedLoginMap → Prop
  | same : MapStep kept m now [] m
  | cleanup : MapStep kept m now [] (m.filter fun x => decide (now - 1800 ≤ x.2.firstFailTime))
  | failed (a : Address) : MapStep kept m now [.failed a now] (m.countFailure a now)
  | evicted (a : Address) (hkept : kept (m.countFailure a now)) :
      MapStep kept m now [.failed a now] ((m.countFailure a now).evict now)
  | accepted (a : Address) (hlimit : m.rateLimited a now = false) : MapStep kept m now [.accepted a now] (m.erase a)
  | refused (a : Address) (hlimit : m.rateLimited a now = true) : MapStep kept m now [.refused a now] m

theorem mapStep_of_logs {c : ServerConfig} {s s' : ServerLobbyThread × Int} {kept : Int → FailedLoginMap → Prop}
    (hlogs : Logs c allowed s notes s')
    (hkept : ∀ l playerId now sid t, allowed l (.userInvalid playerId now) → l.loginSession playerId = some (sid, t) →
      kept now (l.failedLoginMap.countFailure t.clientAddr now)) :
    s.2 ≤ s'.2 ∧ MapStep (kept s'.2) s.1.failedLoginMap s'.2 notes s'.1.failedLoginMap := by
  cases hlogs with
  | @userValid l t playerId dbPlayerData env htime hallowed =>
      refine ⟨htime, ?_⟩
      dsimp only
      rw [ServerLobbyThread.userValid_eq]
      simp only [ServerLobbyThread.loginRecord]
      cases l.loginSession playerId with
      | none => exact .same
      | some found =>
          obtain ⟨sid, s⟩ := found
          dsimp only
          split_ifs with hempty hmatch hlimit
          · simpa using MapStep.same
          · simpa using MapStep.refused s.clientAddr hlimit
          · simpa using MapStep.accepted s.clientAddr (Bool.eq_false_iff.mpr hlimit)
          · simpa using MapStep.failed s.clientAddr
  | @userInvalid l t playerId now htime hallowed =>
      refine ⟨htime, ?_⟩
      dsimp only
      rw [ServerLobbyThread.userInvalid_eq]
      simp only [ServerLobbyThread.loginRecord]
      cases hs : l.loginSession playerId with
      | none => exact .same
      | some found =>
          obtain ⟨sid, s⟩ := found
          simpa using MapStep.evicted s.clientAddr (hkept l playerId now sid s hallowed hs)
  | timerCleanupRateMaps htime hallowed => exact ⟨htime, .cleanup⟩
  | elsewhere htime hmap hallowed =>
      refine ⟨htime, ?_⟩
      dsimp only
      rw [hmap]
      exact .same

/-- A refusal is due to failures of the address itself within the time of the limit. -/
def Due (before : List LoginRecord) (r : LoginRecord) : Prop :=
  ∀ a now, r = .refused a now → ∃ since, now - since < MAX_FAILED_LOGIN_RATE_LIMIT_SECONDS ∧
    MAX_FAILED_LOGIN_ATTEMPTS ≤ failures a since before

/-- A login from the address is refused as long as its window is full, and at no other time. -/
def Held (addr : Address) (before : List LoginRecord) (r : LoginRecord) : Prop :=
  ∀ now, (r = .accepted addr now → ¬ Limited (window addr before) now) ∧
    (r = .refused addr now → Limited (window addr before) now)

theorem Windowed.step {m m' : FailedLoginMap} (hw : Windowed addr recs m now)
    (hstep : MapStep (Keeps addr now) m now notes m') :
    Windowed addr (recs ++ notes) m' now ∧ ∀ r ∈ notes, Held addr recs r := by
  have hlimit : m.rateLimited addr now = true ↔ Limited (window addr recs) now :=
    (rateLimited_iff m addr now).trans hw.entry.limited_iff
  cases hstep with
  | same =>
      rw [List.append_nil]
      exact ⟨hw, by simp⟩
  | cleanup =>
      rw [List.append_nil]
      refine ⟨⟨hw.distinct.sublist List.filter_sublist, ?_⟩, by simp⟩
      rw [FailedLoginMap.lookup_filter hw.distinct]
      refine hw.entry.filter _ fun e he => ?_
      have hlt := of_decide_eq_false he
      dsimp only at hlt
      simp only [MAX_FAILED_LOGIN_RATE_LIMIT_SECONDS]
      omega
  | failed a => exact ⟨hw.failed a, by simp [Held]⟩
  | evicted a hkept => exact ⟨(hw.failed a).evict hkept, by simp [Held]⟩
  | accepted a hnot =>
      refine ⟨hw.accepted a, ?_⟩
      rintro r hr now'
      cases List.mem_singleton.mp hr
      refine ⟨?_, nofun⟩
      rintro ⟨rfl, rfl⟩
      rw [← hlimit, hnot]
      exact Bool.false_ne_true
  | refused a hrefused =>
      refine ⟨hw.refused a, ?_⟩
      rintro r hr now'
      cases List.mem_singleton.mp hr
      refine ⟨nofun, ?_⟩
      rintro ⟨rfl, rfl⟩
      exact hlimit.mp hrefused

theorem Backed.step {m m' : FailedLoginMap} {kept : FailedLoginMap → Prop} (hb : Backed recs m now)
    (hstep : MapStep kept m now notes m') :
    Backed (recs ++ notes) m' now ∧ ∀ r ∈ notes, Due recs r := by
  cases hstep with
  | same =>
      rw [List.append_nil]
      exact ⟨hb, by simp⟩
  | cleanup =>
      rw [List.append_nil]
      exact ⟨hb.sublist List.filter_sublist, by simp⟩
  | failed a => exact ⟨hb.failed a, by simp [Due]⟩
  | evicted a _ => exact ⟨(hb.failed a).sublist (FailedLoginMap.evict_sublist _ _), by simp [Due]⟩
  | accepted a _ => exact ⟨hb.accepted a, by simp [Due]⟩
  | refused a hlimit =>
      refine ⟨hb.refused a, ?_⟩
      rintro r hr a' now' heq
      cases List.mem_singleton.mp hr
      cases heq
      obtain ⟨e, he, hlt, hcount⟩ := (rateLimited_iff m a now).mp hlimit
      exact ⟨e.firstFailTime, hlt, hcount.trans (hb.count a e he)⟩

theorem MapStep.notes_cases {m m' : FailedLoginMap} {kept : FailedLoginMap → Prop} (hstep : MapStep kept m now notes m') :
    notes = [] ∨ ∃ r, notes = [r] := by
  cases hstep with
  | same => exact .inl rfl
  | cleanup => exact .inl rfl
  | failed => exact .inr ⟨_, rfl⟩
  | evicted => exact .inr ⟨_, rfl⟩
  | accepted => exact .inr ⟨_, rfl⟩
  | refused => exact .inr ⟨_, rfl⟩

section

variable {c : ServerConfig} {s : ServerLobbyThread × Int} {t₀ : Int}

theorem each_due (hrun : Runs.History (Logs c allowed) (ServerLobbyThread.initial, t₀) recs s) :
    Backed recs s.1.failedLoginMap s.2 ∧ Runs.Each Due recs := by
  induction hrun with
  | start =>
      refine ⟨⟨List.nodup_nil, ?_, ?_⟩, .nil⟩
      · exact fun _ _ he => nomatch he
      · exact fun _ _ he => nomatch he
  | @step hist notes s s' _ hlast ih =>
      obtain ⟨htime, hstep⟩ := @mapStep_of_logs _ _ _ _ _ (fun _ _ => True) hlast fun _ _ _ _ _ _ _ => trivial
      have hcases := hstep.notes_cases
      obtain ⟨hbacked, hnotes⟩ := (ih.1.later htime).step hstep
      refine ⟨hbacked, ?_⟩
      rcases hcases with rfl | ⟨r, rfl⟩
      · rw [List.append_nil]
        exact ih.2
      · exact ih.2.snoc (hnotes r (List.mem_singleton_self r))

theorem each_held (hspared : ∀ l e, allowed l e → Spared addr l e)
    (hrun : Runs.History (Logs c allowed) (ServerLobbyThread.initial, t₀) recs s) :
    Windowed addr recs s.1.failedLoginMap s.2 ∧ Runs.Each (Held addr) recs := by
  induction hrun with
  | start => exact ⟨⟨List.nodup_nil, .inl rfl⟩, .nil⟩
  | @step hist notes s s' _ hlast ih =>
      obtain ⟨htime, hstep⟩ := mapStep_of_logs hlast fun l playerId now sid t hallowed hs =>
        hspared l _ hallowed sid t hs
      have hcases := hstep.notes_cases
      obtain ⟨hwindowed, hnotes⟩ := (ih.1.later htime).step hstep
      refine ⟨hwindowed, ?_⟩
      rcases hcases with rfl | ⟨r, rfl⟩
      · rw [List.append_nil]
        exact ih.2
      · exact ih.2.snoc (hnotes r (List.mem_singleton_self r))

/-- Refusals are due to an address' own failures. Where the map has room for the address, its logins are refused exactly
while its window is full. -/
theorem failed_login_limit (hrun : Runs.History (Logs c allowed) (ServerLobbyThread.initial, t₀) recs s) :
    Runs.Each Due recs ∧ ∀ addr, (∀ l e, allowed l e → Spared addr l e) → Runs.Each (Held addr) recs :=
  ⟨(each_due hrun).2, fun _ hspared => (each_held hspared hrun).2⟩

end

def knocking (m : FailedLoginMap) (addr : Address) : ServerLobbyThread :=
  { ServerLobbyThread.initial with
    sessions := fun _ => some ⟨.init, addr, false, some ⟨1, ['a'], [], none, none⟩, ['b'], 0, none⟩
    sessionManager := [1]
    failedLoginMap := m }

def anyConfig : ServerConfig := ⟨true, [], 0, false⟩

def clock (now : Int) : Environment := ⟨now, fun _ => false, fun _ => false, true, fun _ _ => none, fun _ => none, fun _ => true⟩

section

variable {s : ServerLobbyThread × Int}

theorem knock_unknown (hall : ∀ l e, l.failedLoginMap = s.1.failedLoginMap → allowed l e)
    (hrun : Runs.History (Logs anyConfig allowed) (ServerLobbyThread.initial, 0) recs s) (a : Address)
    (hle : s.2 ≤ now) : ∃ l, Runs.History (Logs anyConfig allowed) (ServerLobbyThread.initial, 0)
      (recs ++ [.failed a now]) (l, now) ∧ l.failedLoginMap = (s.1.failedLoginMap.countFailure a now).evict now := by
  have hhere : Runs.History (Logs anyConfig allowed) (ServerLobbyThread.initial, 0) recs
      (knocking s.1.failedLoginMap a, now) := by
    have hstep : Runs.History (Logs anyConfig allowed) (ServerLobbyThread.initial, 0) (recs ++ [])
        (knocking s.1.failedLoginMap a, now) := hrun.step (.elsewhere hle rfl (hall _ _ rfl))
    rwa [List.append_nil] at hstep
  refine ⟨_, hhere.step (@Logs.userInvalid _ _ _ _ 1 _ (le_refl now) (hall _ _ rfl)), ?_⟩
  rw [ServerLobbyThread.userInvalid_eq]
  exact ServerLobbyThread.failedLoginMap_sessionError _ _

theorem knock_known (hall : ∀ l e, l.failedLoginMap = s.1.failedLoginMap → allowed l e)
    (hrun : Runs.History (Logs anyConfig allowed) (ServerLobbyThread.initial, 0) recs s) (a : Address)
    (hle : s.2 ≤ now) : ∃ l, Runs.History (Logs anyConfig allowed) (ServerLobbyThread.initial, 0)
      (recs ++ [if s.1.failedLoginMap.rateLimited a now then .refused a now else .accepted a now]) (l, now) := by
  have hhere : Runs.History (Logs anyConfig allowed) (ServerLobbyThread.initial, 0) recs
      (knocking s.1.failedLoginMap a, now) := by
    have hstep : Runs.History (Logs anyConfig allowed) (ServerLobbyThread.initial, 0) (recs ++ [])
        (knocking s.1.failedLoginMap a, now) := hrun.step (.elsewhere hle rfl (hall _ _ rfl))
    rwa [List.append_nil] at hstep
  exact ⟨_, hhere.step (@Logs.userValid _ _ _ _ 1 ⟨1, ['b']⟩ (clock now) (le_refl now)
    (hall _ _ rfl))⟩

theorem knock_five (hall : ∀ l e, l.failedLoginMap.length ≤ 1 → allowed l e) :
    ∃ l, Runs.History (Logs anyConfig allowed) (ServerLobbyThread.initial, 0) (List.replicate 5 (.failed 0 0)) (l, 0) ∧
      l.failedLoginMap = [(0, ⟨5, 0⟩)] := by
  have hroom (m : FailedLoginMap) (hm : m.length ≤ 1) (l : ServerLobbyThread) (e : LoginEvent)
      (hl : l.failedLoginMap = m) : allowed l e := hall l e (hl ▸ hm)
  obtain ⟨l₁, h₁, hm₁⟩ := knock_unknown (hroom [] (by decide)) .start 0 (le_refl 0)
  have hone : l₁.failedLoginMap = [(0, ⟨1, 0⟩)] := hm₁
  obtain ⟨l₂, h₂, hm₂⟩ := knock_unknown (hroom _ (by simp [hone])) h₁ 0 (le_refl 0)
  have htwo : l₂.failedLoginMap = [(0, ⟨2, 0⟩)] := by rw [hm₂, hone]; rfl
  obtain ⟨l₃, h₃, hm₃⟩ := knock_unknown (hroom _ (by simp [htwo])) h₂ 0 (le_refl 0)
  have hthree : l₃.failedLoginMap = [(0, ⟨3, 0⟩)] := by rw [hm₃, htwo]; rfl
  obtain ⟨l₄, h₄, hm₄⟩ := knock_unknown (hroom _ (by simp [hthree])) h₃ 0 (le_refl 0)
  have hfour : l₄.failedLoginMap = [(0, ⟨4, 0⟩)] := by rw [hm₄, hthree]; rfl
  obtain ⟨l₅, h₅, hm₅⟩ := knock_unknown (hroom _ (by simp [hfour])) h₄ 0 (le_refl 0)
  exact ⟨l₅, h₅, by rw [hm₅, hfour]; rfl⟩

/-- After five failures the right password is refused. -/
theorem failed_login_limit_five :
    ∃ l, Runs.History (Logs anyConfig fun l _ => l.failedLoginMap.length ≤ 1) (ServerLobbyThread.initial, 0)
        (List.replicate 5 (.failed 0 0) ++ [.refused 0 299]) (l, 299) ∧
      Runs.Each Due (List.replicate 5 (.failed 0 0) ++ [.refused 0 299]) ∧
      Runs.Each (Held 0) (List.replicate 5 (.failed 0 0) ++ [.refused 0 299]) := by
  obtain ⟨l₅, h₅, hm₅⟩ := @knock_five (fun l _ => l.failedLoginMap.length ≤ 1) fun _ _ hlen => hlen
  obtain ⟨l, hl⟩ := knock_known (fun l _ hl => by simp [hl, hm₅]) h₅ 0 (show (0 : Int) ≤ 299 by decide)
  rw [hm₅] at hl
  obtain ⟨hdue, hheld⟩ := failed_login_limit hl
  exact ⟨l, hl, hdue, hheld 0 fun l e hlen => spared_of_length (lt_of_le_of_lt hlen (by decide))⟩

def crowd (k : Nat) : FailedLoginMap := (0, ⟨5, 0⟩) :: (List.range k).map fun i => (i + 1, ⟨1, 1⟩)

theorem crowd_succ (k : Nat) : crowd (k + 1) = crowd k ++ [(k + 1, ⟨1, 1⟩)] := by
  simp [crowd, List.range_succ]

theorem orderedInsert_last {r : Address × FailedLoginEntry} : ∀ {m : FailedLoginMap}, (∀ e ∈ m, e.1 < r.1) →
    List.orderedInsert (fun x y : Address × FailedLoginEntry => x.1 ≤ y.1) r m = m ++ [r]
  | [], _ => rfl
  | e :: m, hlt => by
      have hnot : ¬ r.1 ≤ e.1 := Nat.not_le.mpr (hlt e List.mem_cons_self)
      rw [List.orderedInsert_cons, if_neg hnot, orderedInsert_last fun f hf => hlt f (List.mem_cons_of_mem _ hf)]
      rfl

theorem crowd_lt (k : Nat) : ∀ e ∈ crowd k, e.1 < k + 1 := by
  intro e he
  rw [crowd, List.mem_cons, List.mem_map] at he
  rcases he with rfl | ⟨i, hi, rfl⟩
  · exact Nat.succ_pos k
  · exact Nat.succ_lt_succ (List.mem_range.mp hi)

theorem countFailure_crowd (k : Nat) : (crowd k).countFailure (k + 1) 1 = crowd (k + 1) := by
  have hnone : (crowd k).lookup (k + 1) = none := by
    rw [List.lookup_eq_none_iff]
    intro e he
    exact bne_iff_ne.mpr (Nat.ne_of_gt (crowd_lt k e he))
  have herase : FailedLoginMap.erase (crowd k) (k + 1) = crowd k := by
    rw [FailedLoginMap.erase, List.filter_eq_self]
    intro e he
    exact bne_iff_ne.mpr (Nat.ne_of_lt (crowd_lt k e he))
  rw [FailedLoginMap.countFailure, hnone]
  dsimp only
  rw [FailedLoginMap.set, herase, orderedInsert_last (crowd_lt k), crowd_succ]

theorem recent_crowd (k : Nat) : FailedLoginMap.recent (crowd k) 1 = crowd k := by
  rw [FailedLoginMap.recent]
  split_ifs
  · rw [List.filter_eq_self]
    intro e he
    rw [crowd, List.mem_cons, List.mem_map] at he
    rcases he with rfl | ⟨i, _, rfl⟩
    · decide
    · exact decide_eq_true (by decide : (1 : Int) - 1 ≤ MAX_FAILED_LOGIN_RATE_LIMIT_SECONDS)
  · rfl

theorem length_crowd (k : Nat) : (crowd k).length = k + 1 := by simp [crowd]

theorem evict_crowd {k : Nat} (hk : k < 2000) : FailedLoginMap.evict (crowd k) 1 = crowd k := by
  rcases FailedLoginMap.evict_cases (crowd k) 1 with ⟨_, he⟩ | ⟨hlarge, _⟩
  · rw [he, recent_crowd]
  · rw [recent_crowd, length_crowd, MAX_FAILED_LOGIN_MAP_HARD_LIMIT] at hlarge
    omega

theorem evict_crowd_full : (FailedLoginMap.evict (crowd 2000) 1).lookup 0 = none := by
  have hiter (n : Nat) : List.Sublist (FailedLoginMap.eraseOldest^[n + 1] (crowd 2000))
      ((List.range 2000).map fun i => (i + 1, ⟨1, 1⟩)) := by
    have hhead : FailedLoginMap.eraseOldest (crowd 2000) = (List.range 2000).map fun i => (i + 1, ⟨1, 1⟩) := by
      rw [crowd, FailedLoginMap.eraseOldest, if_pos]
      simp
    rw [Function.iterate_succ_apply, hhead]
    exact FailedLoginMap.iterate_eraseOldest_sublist n _
  have hevict : FailedLoginMap.evict (crowd 2000) 1 = FailedLoginMap.eraseOldest^[1000 + 1] (crowd 2000) := by
    rcases FailedLoginMap.evict_cases (crowd 2000) 1 with ⟨hsmall, _⟩ | ⟨_, he⟩
    · rw [recent_crowd, length_crowd] at hsmall
      exact absurd hsmall (by decide)
    · rw [he, recent_crowd, length_crowd]
      rfl
  rw [hevict, List.lookup_eq_none_iff]
  intro e he
  obtain ⟨i, _, rfl⟩ := List.mem_map.mp ((hiter 1000).subset he)
  simp

def crowded (k : Nat) : List LoginRecord := List.replicate 5 (.failed 0 0) ++ (List.range k).map fun i => .failed (i + 1) 1

theorem crowded_succ (k : Nat) : crowded (k + 1) = crowded k ++ [.failed (k + 1) 1] := by
  simp [crowded, List.range_succ]

theorem window_crowded (k : Nat) : window 0 (crowded k) = some ⟨5, 0⟩ := by
  induction k with
  | zero => rfl
  | succ k ih =>
      rw [crowded_succ, window_snoc, ih]
      simp [track]

theorem knock_crowded : ∀ k ≤ 2000, ∃ s : ServerLobbyThread × Int,
    Runs.History (Logs anyConfig fun _ _ => True) (ServerLobbyThread.initial, 0) (crowded k) s ∧ s.2 ≤ 1 ∧
      s.1.failedLoginMap = if k = 2000 then (crowd 2000).evict 1 else crowd k
  | 0, _ => by
      obtain ⟨l, hl, hm⟩ := @knock_five (fun _ _ => True) fun _ _ _ => trivial
      exact ⟨(l, 0), hl, zero_le_one, hm⟩
  | k + 1, hk => by
      obtain ⟨s, hs, hle, hm⟩ := knock_crowded k (by omega)
      obtain ⟨l, hl, hml⟩ := knock_unknown (fun _ _ _ => trivial) hs (k + 1) hle
      rw [if_neg (by omega)] at hm
      rw [hm, countFailure_crowd] at hml
      refine ⟨(l, 1), crowded_succ k ▸ hl, le_refl 1, ?_⟩
      rw [hml]
      split_ifs with hfull
      · rw [hfull]
      · exact evict_crowd (by omega)

/-- The right password is accepted two seconds after five failures, when 2000 other addresses have failed since. -/
theorem failed_login_limit_crowded :
    ∃ s, Runs.History (Logs anyConfig fun _ _ => True) (ServerLobbyThread.initial, 0)
        (crowded 2000 ++ [.accepted 0 2]) s ∧ Limited (window 0 (crowded 2000)) 2 ∧
      ¬ Runs.Each (Held 0) (crowded 2000 ++ [.accepted 0 2]) := by
  have hlimited : Limited (window 0 (crowded 2000)) 2 := ⟨⟨5, 0⟩, window_crowded 2000, by decide, by decide⟩
  obtain ⟨s, hs, hle, hm⟩ := knock_crowded 2000 (le_refl _)
  obtain ⟨l, hl⟩ := knock_known (fun _ _ _ => trivial) hs 0 (show s.2 ≤ 2 by omega)
  have hfree : s.1.failedLoginMap.rateLimited 0 2 = false := by
    rw [hm, if_pos rfl, FailedLoginMap.rateLimited, evict_crowd_full]
  rw [hfree, if_neg Bool.false_ne_true] at hl
  exact ⟨(l, 2), hl, hlimited, fun hall => (hall (crowded 2000) _ [] rfl 2).1 rfl hlimited⟩

end

end PokerTH.Lobby
