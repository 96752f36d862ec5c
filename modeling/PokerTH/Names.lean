import PokerTH.Registered

namespace PokerTH.Lobby

open Runs ServerLobbyThread

variable {c : ServerConfig} {env : Environment} {l l' k : ServerLobbyThread} {sid t : SessionId}
  {s : SessionData} {p : PlayerData} {name : Text} {e : Event} {m : InitMessage} {msg : Msg}

def Bears (s : SessionData) (name : Text) : Prop :=
  (s.state = .established ∨ s.state = .game) ∧ ∃ p, s.playerData = some p ∧ p.name = name

def Live (l : ServerLobbyThread) (sid : SessionId) (name : Text) : Prop := ∃ s, l.sessions sid = some s ∧ Bears s name

def UniqueNames (l : ServerLobbyThread) : Prop := ∀ name sid sid', Live l sid name → Live l sid' name → sid = sid'

def Dims (l l' : ServerLobbyThread) : Prop := ∀ sid name, Live l' sid name → Live l sid name

theorem Dims.refl (l : ServerLobbyThread) : Dims l l := fun _ _ h => h

theorem Dims.trans (h : Dims l k) (h' : Dims k l') : Dims l l' := fun sid name hl => h sid name (h' sid name hl)

theorem UniqueNames.dims (hu : UniqueNames l) (hd : Dims l l') : UniqueNames l' :=
  fun name sid sid' h h' => hu name sid sid' (hd sid name h) (hd sid' name h')

theorem dims_of_sessions (hs : l'.sessions = l.sessions) : Dims l l' := by
  intro sid name h
  rwa [Live, hs] at h

theorem UniqueNames.enters (hu : UniqueNames l) (sid : SessionId)
    (hother : ∀ t name, t ≠ sid → Live l' t name → Live l t name)
    (hfree : ∀ t name, Live l' sid name → Live l' t name → t = sid) : UniqueNames l' := by
  intro name t t' h h'
  by_cases hsid : t = sid
  · subst hsid
    exact (hfree t' name h h').symm
  · by_cases hsid' : t' = sid
    · subst hsid'
      exact hfree t name h' h
    · exact hu name t t' (hother t name hsid h) (hother t' name hsid' h')

namespace ServerLobbyThread

theorem live_setSession_self : Live (l.setSession sid s) sid name ↔ Bears s name := by
  simp [Live, setSession]

theorem live_setSession_ne (hne : t ≠ sid) : Live (l.setSession sid s) t name ↔ Live l t name := by
  simp [Live, setSession, Function.update_of_ne hne]

theorem dims_setSession (hs : ∀ name, Bears s name → Live l sid name) : Dims l (l.setSession sid s) := by
  intro t name h
  by_cases hsid : t = sid
  · subst hsid
    exact hs name (live_setSession_self.mp h)
  · exact (live_setSession_ne hsid).mp h

theorem dims_out (hs : s.state ≠ .established) (hs' : s.state ≠ .game) : Dims l (l.setSession sid s) :=
  dims_setSession fun _ h => (h.1.elim hs hs').elim

theorem dims_closeSession (l : ServerLobbyThread) (sid : SessionId) : Dims l (l.closeSession sid) := by
  simp only [closeSession]
  split
  · exact Dims.refl l
  · split_ifs
    · exact Dims.refl l
    · exact (dims_out (by simp) (by simp)).trans (dims_of_sessions rfl)

theorem not_live_closeSession (l : ServerLobbyThread) (sid : SessionId) (name : Text) :
    ¬ Live (l.closeSession sid) sid name := by
  simp only [closeSession]
  split
  · next hnone =>
      rintro ⟨s, hs, -⟩
      rw [hnone] at hs
      cases hs
  · next s hs =>
      split_ifs with hclosed
      · rintro ⟨s', hs', hstate, -⟩
        rw [hs] at hs'
        cases hs'
        rw [hclosed] at hstate
        exact hstate.elim (by simp) (by simp)
      · intro h
        exact (live_setSession_self.mp h).1.elim (by simp) (by simp)

def removedSession (l : ServerLobbyThread) (env : Environment) (playerId : Nat) : Option SessionId :=
  match l.getSessionByUniquePlayerId l.sessionManager playerId true with
  | some sid => some sid
  | none =>
      match l.getSessionByUniquePlayerId l.gameSessionManager playerId false with
      | some sid => if env.inGame sid ∧ (l.sessions sid).any fun s => s.game.isSome then some sid else none
      | none => none

theorem internalRemovePlayer_eq (l : ServerLobbyThread) (env : Environment) (playerId : Nat) :
    l.internalRemovePlayer env playerId =
      match l.removedSession env playerId with
      | some sid => l.closeSession sid
      | none => l := by
  simp only [internalRemovePlayer, removedSession]
  cases l.getSessionByUniquePlayerId l.sessionManager playerId true with
  | some sid => rfl
  | none =>
      cases l.getSessionByUniquePlayerId l.gameSessionManager playerId false with
      | none => rfl
      | some sid =>
          dsimp only
          split_ifs <;> rfl

theorem dims_internalRemovePlayer (l : ServerLobbyThread) (playerId : Nat) :
    Dims l (l.internalRemovePlayer env playerId) := by
  rw [internalRemovePlayer_eq]
  split
  · exact dims_closeSession l _
  · exact Dims.refl l

theorem not_live_internalRemovePlayer {playerId : Nat} (hremoved : l.removedSession env playerId = some t) (name : Text) :
    ¬ Live (l.internalRemovePlayer env playerId) t name := by
  rw [internalRemovePlayer_eq, hremoved]
  exact not_live_closeSession l t name

/-- The seat that the player may take again. -/
def rejoinPlayer (env : Environment) (p : PlayerData) : Option Nat :=
  if p.oldGuid.isEmpty then none else env.getRejoinGame p.name p.oldGuid

/-- Every other live session with the name is the one that the server finds, by the id of the seat or by the name. -/
def Detects (c : ServerConfig) (env : Environment) (l : ServerLobbyThread) (sid : SessionId) (s : SessionData)
    (p : PlayerData) : Prop :=
  ∀ t ≠ sid, Live l t p.name →
    match rejoinPlayer env p with
    | some playerId => l.removedSession env playerId = some t
    | none => (l.getPlayerId p.name ≠ 0 ∧ l.getPlayerId p.name ≠ p.uniqueId) ∧
        (c.officialServer ∧ ¬ s.webData → l.removedSession env (l.getPlayerId p.name) = some t)

/-- A session that is receiving its avatar is met before the session `t` when the server looks for the name. -/
def Hides (l : ServerLobbyThread) (name : Text) (r t : SessionId) : Prop :=
  ∃ v u, l.sessions r = some v ∧ v.state = .receivingAvatar ∧ (∃ q, v.playerData = some q ∧ q.name = name) ∧
    l.sessions t = some u ∧ (u.state = .game ∨ [r, t].Sublist l.sessionManager)

/-- The session of the name that is found first is closed when another one comes in, or else the new one is refused. -/
def Replaces (c : ServerConfig) (s : SessionData) : Prop := c.officialServer ∧ ¬ s.webData

/-- Nothing keeps the server from finding the session `t` as the player comes in: the seat that he may take again is of
that session's player, no avatar on its way is in between, and a session in a game is in its list. -/
structure Findable (c : ServerConfig) (env : Environment) (l : ServerLobbyThread) (sid : SessionId) (s : SessionData)
    (p : PlayerData) (t : SessionId) (u : SessionData) : Prop where
  seat : ∀ id, rejoinPlayer env p = some id → playerId u = some id
  avatars : rejoinPlayer env p = none → ∀ r, r = sid ∨ Replaces c s → ¬ Hides l p.name r t
  listed : (rejoinPlayer env p).isSome ∨ Replaces c s → u.state = .game → env.inGame t

def Seen (c : ServerConfig) (env : Environment) (l : ServerLobbyThread) (sid : SessionId) (s : SessionData)
    (p : PlayerData) : Prop :=
  ∀ t u, t ≠ sid → l.sessions t = some u → Bears u p.name → Findable c env l sid s p t u

theorem registered_of_bears {u : SessionData} (hr : Registered l) (ht : l.sessions t = some u) (hb : Bears u name) :
    t ∈ l.sessionManager ∧ u.state = .established ∨
      t ∉ l.sessionManager ∧ t ∈ l.gameSessionManager ∧ u.state = .game ∧ u.game.isSome := by
  rcases hb.1 with hstate | hstate
  · exact .inl ⟨(hr.lobby t u ht).mpr (by simp [hstate]), hstate⟩
  · exact .inr ⟨fun h => ((hr.lobby t u ht).mp h).1 hstate, (hr.games t u ht).mpr hstate, hstate,
      (hr.pointer t u ht).mpr hstate⟩

theorem removedSession_eq {u : SessionData} {id : Nat} (hr : Registered l) (hids : UniqueIds l) (ht : l.sessions t = some u)
    (hb : Bears u name) (hid : playerId u = some id) (hgame : u.state = .game → env.inGame t) :
    l.removedSession env id = some t := by
  have hown : idOf l t = some id := Option.bind_eq_some_iff.mpr ⟨u, ht, hid⟩
  obtain ⟨q, hq, rfl⟩ := Option.map_eq_some_iff.mp hid
  have hunique (manager : List SessionId) (b : Bool) (r : SessionId)
      (hfind : l.getSessionByUniquePlayerId manager q.uniqueId b = some r) : r = t := by
    obtain ⟨v, hv, hvid⟩ := getSessionByUniquePlayerId_some hfind
    exact hids.unique r t _ (Option.bind_eq_some_iff.mpr ⟨v, hv, hvid⟩) hown
  have hfinds (manager : List SessionId) (b : Bool) (hmem : t ∈ manager) (hinit : b || u.state != .init) :
      l.getSessionByUniquePlayerId manager q.uniqueId b = some t := by
    cases hfind : l.getSessionByUniquePlayerId manager q.uniqueId b with
    | some r => rw [hunique manager b r hfind]
    | none =>
        have hno := List.find?_eq_none.mp hfind t hmem
        rw [ht, Option.any_some, hq] at hno
        simp [hinit] at hno
  rcases registered_of_bears hr ht hb with ⟨hmem, -⟩ | ⟨hnot, hmem, hstate, hpointer⟩
  · simp only [removedSession, hfinds _ true hmem rfl]
  · have hlobby : l.getSessionByUniquePlayerId l.sessionManager q.uniqueId true = none := by
      cases hfind : l.getSessionByUniquePlayerId l.sessionManager q.uniqueId true with
      | none => rfl
      | some r => exact absurd (hunique _ _ r hfind ▸ List.mem_of_find?_eq_some hfind) hnot
    simp only [removedSession, hlobby, hfinds _ false hmem (by simp [hstate])]
    rw [if_pos ⟨hgame hstate, by rw [ht]; exact hpointer⟩]

theorem pair_sublist {α : Type} {q : α → Bool} {xs : List α} {a b : α} (hfind : xs.find? q = some a) (hb : b ∈ xs)
    (hq : q b = true) (hne : b ≠ a) : [a, b].Sublist xs := by
  obtain ⟨before, after, rfl, hbefore⟩ := (List.find?_eq_some_iff_append.mp hfind).2
  have hafter : b ∈ after := by
    rcases List.mem_append.mp hb with hmem | hmem
    · exact absurd hq (by simpa using hbefore b hmem)
    · exact (List.mem_cons.mp hmem).resolve_left hne
  exact ((List.singleton_sublist.mpr hafter).cons_cons a).trans (List.sublist_append_right before _)

theorem getSessionByPlayerName_some {manager : List SessionId}
    (hfind : l.getSessionByPlayerName manager name = some t) :
    ∃ u q, l.sessions t = some u ∧ u.state ≠ .init ∧ u.playerData = some q ∧ q.name = name := by
  have hany := List.find?_some hfind
  obtain ⟨u, hu, hmatch⟩ := (Option.any_eq_true _ _).mp hany
  simp only [Bool.and_eq_true, bne_iff_ne, Option.any_eq_true, beq_iff_eq] at hmatch
  obtain ⟨hstate, q, hq, hname⟩ := hmatch
  exact ⟨u, q, hu, hstate, hq, hname⟩

/-- The id that the server finds for the name is of the session that has it, or of one that hides that. -/
theorem getPlayerId_spec {u : SessionData} (hr : Registered l) (hu : UniqueNames l) (ht : l.sessions t = some u)
    (hb : Bears u name) : ∃ r, idOf l r = some (l.getPlayerId name) ∧ (r = t ∨ Hides l name r t) := by
  have hlive : Live l t name := ⟨u, ht, hb⟩
  have hinit : u.state ≠ .init := by
    rcases hb.1 with h | h <;> simp [h]
  have hsearched : ((l.sessions t).any fun s => s.state != .init && s.playerData.any fun p => p.name == name) = true := by
    obtain ⟨-, q, hq, hname⟩ := hb
    rw [ht, Option.any_some, hq, Option.any_some]
    simp [hinit, hname]
  cases hlobby : l.getSessionByPlayerName l.sessionManager name with
  | some r =>
      obtain ⟨v, q, hv, hstate, hq, hname⟩ := getSessionByPlayerName_some hlobby
      refine ⟨r, by simp [idOf, playerId, getPlayerId, hlobby, hv, hq], ?_⟩
      have hmem := List.mem_of_find?_eq_some hlobby
      obtain ⟨hgame, hopen⟩ := (hr.lobby r v hv).mp hmem
      cases hcase : v.state with
      | init => exact absurd hcase hstate
      | game => exact absurd hcase hgame
      | closed => exact absurd hcase hopen
      | established => exact .inl (hu name r t ⟨v, hv, .inl hcase, q, hq, hname⟩ hlive)
      | receivingAvatar =>
          refine .inr ⟨v, u, hv, hcase, ⟨q, hq, hname⟩, ht, ?_⟩
          rcases registered_of_bears hr ht hb with ⟨hmem', hestablished⟩ | ⟨-, -, hgame', -⟩
          · right
            apply pair_sublist hlobby hmem' hsearched
            rintro rfl
            cases Option.some.inj (hv.symm.trans ht)
            rw [hcase] at hestablished
            cases hestablished
          · exact .inl hgame'
  | none =>
      have hnot : t ∉ l.sessionManager := fun hmem => List.find?_eq_none.mp hlobby t hmem hsearched
      rcases registered_of_bears hr ht hb with ⟨hmem, -⟩ | ⟨-, hmem, -, -⟩
      · exact absurd hmem hnot
      · cases hgames : l.getSessionByPlayerName l.gameSessionManager name with
        | none => exact absurd hsearched (List.find?_eq_none.mp hgames t hmem)
        | some r =>
            obtain ⟨v, q, hv, -, hq, hname⟩ := getSessionByPlayerName_some hgames
            have hgame := (hr.games r v hv).mp (List.mem_of_find?_eq_some hgames)
            refine ⟨r, by simp [idOf, playerId, getPlayerId, hlobby, hgames, hv, hq], .inl ?_⟩
            exact hu name r t ⟨v, hv, .inr hgame, q, hq, hname⟩ hlive

theorem Seen.answer {pid : Nat} (hseen : Seen c env l sid s p) : Seen c env (l.answer pid) sid s p := by
  intro t u hne ht hb
  obtain ⟨hseat, havatars, hlisted⟩ := hseen t u hne ht hb
  exact ⟨hseat, havatars, hlisted⟩

theorem Seen.detects (hr : Registered l) (hids : UniqueIds l) (hu : UniqueNames l) (hs : l.sessions sid = some s)
    (hp : s.playerData = some p) (hseen : Seen c env l sid s p) : Detects c env l sid s p := by
  rintro t hne ⟨u, ht, hb⟩
  obtain ⟨hseat, havatars, hlisted⟩ := hseen t u hne ht hb
  split
  · next id hrejoin => exact removedSession_eq hr hids ht hb (hseat id hrejoin) (hlisted (by simp [hrejoin]))
  · next hrejoin =>
      obtain ⟨r, hrid, hfound⟩ := getPlayerId_spec hr hu ht hb
      have hother : r ≠ sid := by
        rintro rfl
        exact hfound.elim (fun h => hne h.symm) (havatars hrejoin r (.inl rfl))
      refine ⟨⟨(hids.bound r _ hrid).1.ne', fun hown => hother ?_⟩, fun hreplaces => ?_⟩
      · exact hids.unique r sid _ hrid (Option.bind_eq_some_iff.mpr ⟨s, hs, by rw [playerId, hp, hown]; rfl⟩)
      · have htr : r = t := hfound.resolve_right (havatars hrejoin r (.inr hreplaces))
        subst htr
        obtain ⟨v, hv, hid⟩ := Option.bind_eq_some_iff.mp hrid
        cases Option.some.inj (hv.symm.trans ht)
        exact removedSession_eq hr hids ht hb hid (hlisted (.inr hreplaces))

theorem live_setSessionState_ne (hne : t ≠ sid) {state : SessionState} (hlive : Live (l.setSessionState sid state) t name) :
    Live l t name := by
  simp only [setSessionState] at hlive
  split at hlive
  · exact hlive
  · exact (live_setSession_ne hne).mp hlive

theorem playerData_closeSession (l : ServerLobbyThread) (sid t : SessionId) :
    ((l.closeSession t).sessions sid).bind (fun s => s.playerData) = (l.sessions sid).bind fun s => s.playerData := by
  simp only [closeSession]
  split
  · rfl
  · next s hs =>
      split_ifs
      · rfl
      · by_cases hsid : sid = t
        · subst hsid
          simp [setSession, hs]
        · simp [setSession, Function.update_of_ne hsid]

theorem playerData_internalRemovePlayer (l : ServerLobbyThread) (playerId : Nat) (sid : SessionId) :
    ((l.internalRemovePlayer env playerId).sessions sid).bind (fun s => s.playerData) =
      (l.sessions sid).bind fun s => s.playerData := by
  rw [internalRemovePlayer_eq]
  split
  · exact playerData_closeSession l sid _
  · rfl

theorem live_established (hp : (l.sessions sid).bind (fun s => s.playerData) = some p)
    (hlive : Live (l.setSessionState sid .established) sid name) : p.name = name := by
  obtain ⟨s, hs, hs'⟩ := Option.bind_eq_some_iff.mp hp
  simp only [setSessionState, hs] at hlive
  obtain ⟨-, q, hq, hname⟩ := live_setSession_self.mp hlive
  rw [hs'] at hq
  cases hq
  exact hname

theorem unique_established (hu : UniqueNames l) (hd : Dims l k)
    (hp : (k.sessions sid).bind (fun s => s.playerData) = some p)
    (hgone : ∀ t ≠ sid, Live l t p.name → ¬ Live k t p.name) : UniqueNames (k.setSessionState sid .established) := by
  apply (hu.dims hd).enters sid fun t name hne h => live_setSessionState_ne hne h
  intro t name hsid ht
  by_contra hne
  obtain rfl := live_established hp hsid
  have hk := live_setSessionState_ne hne ht
  exact hgone t hne (hd t p.name hk) hk

theorem unique_establishSession (hu : UniqueNames l) (hs : l.sessions sid = some s)
    (hdetects : ∀ p, s.playerData = some p → Detects c env l sid s p) :
    UniqueNames (l.establishSession c env sid s) := by
  simp only [establishSession]
  split
  · exact hu.dims (dims_closeSession l sid)
  · next p hp =>
      have hplayer : (l.sessions sid).bind (fun s => s.playerData) = some p := by rw [hs, Option.bind_some, hp]
      have hremoves (playerId : Nat) (hfinds : ∀ t ≠ sid, Live l t p.name → l.removedSession env playerId = some t) :
          UniqueNames ((l.internalRemovePlayer env playerId).setSessionState sid .established) := by
        apply unique_established hu (dims_internalRemovePlayer l playerId)
        · rw [playerData_internalRemovePlayer]
          exact hplayer
        · exact fun t hne ht => not_live_internalRemovePlayer (hfinds t hne ht) p.name
      have hd := hdetects p hp
      simp only [Detects, rejoinPlayer] at hd
      split
      · next playerId hrejoin =>
          rw [hrejoin] at hd
          exact hremoves playerId hd
      · next hrejoin =>
          rw [hrejoin] at hd
          split_ifs with hother hofficial
          · exact hremoves _ fun t hne ht => (hd t hne ht).2 hofficial
          · exact hu.dims (dims_closeSession l sid)
          · apply unique_established hu (Dims.refl l) hplayer
            exact fun t hne ht => absurd (hd t hne ht).1 hother

theorem dims_noteInit (c : ServerConfig) (env : Environment) (l : ServerLobbyThread) (s : SessionData) :
    Dims l (l.noteInit c env s) := by
  simp only [noteInit]
  split_ifs
  · exact dims_of_sessions rfl
  · exact Dims.refl l

theorem dims_handleNetPacketInit (l : ServerLobbyThread) (hstate : s.state = .init) (m : InitMessage) :
    Dims l (l.handleNetPacketInit c env sid s m) := by
  have hnote := dims_noteInit c env l s
  have hset (t : SessionData) (ht : t.state = .init) (k : ServerLobbyThread) : Dims k (k.setSession sid t) :=
    dims_out (by simp [ht]) (by simp [ht])
  have hpassword := hnote.trans (hset { s with password := m.clientUserData.getD s.password } hstate _)
  simp only [handleNetPacketInit]
  split_ifs
  · exact dims_closeSession l sid
  · exact hnote.trans (dims_closeSession _ sid)
  · exact hpassword.trans (dims_closeSession _ sid)
  · apply hpassword.trans
    simp only [authenticatePlayer]
    split_ifs
    · exact dims_closeSession _ sid
    · exact (hset { s with password := m.clientUserData.getD s.password, playerData := some _ } hstate _).trans
        (dims_of_sessions rfl)
  · exact hpassword.trans (dims_closeSession _ sid)
  · exact hnote.trans (dims_closeSession _ sid)
  · exact hnote.trans (dims_closeSession _ sid)

theorem dims_handleNetPacketAvatarHeader (l : ServerLobbyThread) (size type : Nat) :
    Dims l (l.handleNetPacketAvatarHeader sid s size type) := by
  simp only [handleNetPacketAvatarHeader]
  split
  · exact Dims.refl l
  · split_ifs
    · exact dims_closeSession l sid
    · exact dims_out (by simp) (by simp)
    · exact dims_closeSession l sid

theorem dims_handleNetPacketAvatarFile (l : ServerLobbyThread) (hstate : s.state = .receivingAvatar) (blockSize : Nat) :
    Dims l (l.handleNetPacketAvatarFile sid s blockSize) := by
  simp only [handleNetPacketAvatarFile]
  split
  · exact Dims.refl l
  · split
    · exact dims_closeSession l sid
    · split_ifs
      · exact Dims.refl l
      · exact dims_closeSession l sid
      · exact dims_closeSession l sid
      · exact dims_out (by simp [hstate]) (by simp [hstate])

def outline (s : SessionData) : SessionState × Bool × Option (Nat × Text) :=
  (s.state, s.game.isSome, s.playerData.map fun p => (p.uniqueId, p.name))

structure SameOutline (l k : ServerLobbyThread) : Prop where
  sessions : ∀ sid, (k.sessions sid).map outline = (l.sessions sid).map outline
  lobby : k.sessionManager = l.sessionManager
  games : k.gameSessionManager = l.gameSessionManager

theorem any_outline (f : SessionState × Bool × Option (Nat × Text) → Bool) (ho : SameOutline l k) (sid : SessionId) :
    ((k.sessions sid).any fun s => f (outline s)) = (l.sessions sid).any fun s => f (outline s) := by
  have hmap (o : Option SessionData) : (o.any fun s => f (outline s)) = (o.map outline).any f := by
    rw [Option.any_map]
  rw [hmap, hmap, ho.sessions]

theorem SameOutline.getSessionByUniquePlayerId (ho : SameOutline l k) (manager : List SessionId) (playerId : Nat)
    (initSessions : Bool) :
    k.getSessionByUniquePlayerId manager playerId initSessions =
      l.getSessionByUniquePlayerId manager playerId initSessions := by
  simp only [ServerLobbyThread.getSessionByUniquePlayerId]
  congr 1
  funext sid
  have h := any_outline (fun o => (initSessions || o.1 != .init) && o.2.2.any fun q => q.1 == playerId) ho sid
  simpa only [outline, Option.any_map] using h

theorem SameOutline.getSessionByPlayerName (ho : SameOutline l k) (manager : List SessionId) (name : Text) :
    k.getSessionByPlayerName manager name = l.getSessionByPlayerName manager name := by
  simp only [ServerLobbyThread.getSessionByPlayerName]
  congr 1
  funext sid
  have h := any_outline (fun o => o.1 != .init && o.2.2.any fun q => q.2 == name) ho sid
  simpa only [outline, Option.any_map] using h

theorem SameOutline.getPlayerId (ho : SameOutline l k) (name : Text) : k.getPlayerId name = l.getPlayerId name := by
  have hid (o : Option SessionData) : ((o.bind fun s => s.playerData).map fun p => p.uniqueId) =
      ((o.map outline).bind fun q => q.2.2).map fun q => q.1 := by
    cases o with
    | none => rfl
    | some s =>
        cases hp : s.playerData <;> simp [outline, hp]
  simp only [ServerLobbyThread.getPlayerId, ho.getSessionByPlayerName, ho.lobby, ho.games, hid, ho.sessions]

theorem SameOutline.removedSession (ho : SameOutline l k) (env : Environment) (playerId : Nat) :
    k.removedSession env playerId = l.removedSession env playerId := by
  have hgame (sid : SessionId) : ((k.sessions sid).any fun s => s.game.isSome) =
      (l.sessions sid).any fun s => s.game.isSome := any_outline (fun o => o.2.1) ho sid
  simp only [ServerLobbyThread.removedSession, ho.getSessionByUniquePlayerId, ho.lobby, ho.games, hgame]

theorem SameOutline.live (ho : SameOutline l k) (h : Live k sid name) : Live l sid name := by
  obtain ⟨s, hs, hstate, p, hp, hname⟩ := h
  have hmap := ho.sessions sid
  rw [hs, Option.map_some] at hmap
  obtain ⟨t, ht, heq⟩ := Option.map_eq_some_iff.mp hmap.symm
  simp only [outline, Prod.mk.injEq, hp, Option.map_some] at heq
  obtain ⟨q, hq, hid⟩ := Option.map_eq_some_iff.mp heq.2.2
  refine ⟨t, ht, heq.1 ▸ hstate, q, hq, ?_⟩
  rw [← hname]
  exact congrArg Prod.snd hid

theorem SameOutline.detects (ho : SameOutline l k) (hdetects : Detects c env l sid s p) : Detects c env k sid s p := by
  intro t hne ht
  rw [ho.getPlayerId, ho.removedSession]
  have hd := hdetects t hne (ho.live ht)
  split
  · next playerId hrejoin =>
      rw [hrejoin] at hd
      rw [ho.removedSession]
      exact hd
  · next hrejoin =>
      rw [hrejoin] at hd
      exact hd

theorem unique_establish_avatar (hu : UniqueNames l) (hs : l.sessions sid = some s) (hp : s.playerData = some p)
    (hstate : s.state ≠ .established) (hgame : s.state ≠ .game) (hdetects : Detects c env l sid s p)
    (hash : Option Nat) :
    let s' := { s with playerData := some { p with avatarMD5 := hash, netAvatarFile := none } }
    UniqueNames ((l.setSession sid s').establishSession c env sid s') := by
  intro s'
  have ho : SameOutline l (l.setSession sid s') := by
    refine ⟨fun t => ?_, rfl, rfl⟩
    by_cases hsid : t = sid
    · subst hsid
      simp [setSession, hs, outline, hp, s']
    · simp [setSession, Function.update_of_ne hsid]
  have hset : Dims l (l.setSession sid s') := dims_out hstate hgame
  apply @unique_establishSession c env _ sid s' (hu.dims hset) (Function.update_self ..)
  rintro _ ⟨⟩
  exact ho.detects hdetects

theorem unique_handleNetPacketUnknownAvatar (hu : UniqueNames l) (hs : l.sessions sid = some s) (hstate : s.state = .init)
    (hdetects : ∀ p, s.playerData = some p → Detects c env l sid s p) :
    UniqueNames (l.handleNetPacketUnknownAvatar c env sid s) := by
  simp only [handleNetPacketUnknownAvatar]
  split
  · exact hu
  · next p hp =>
      exact unique_establish_avatar hu hs hp (by simp [hstate]) (by simp [hstate]) (hdetects p hp) none

theorem unique_handleNetPacketAvatarEnd (hu : UniqueNames l) (hs : l.sessions sid = some s)
    (hstate : s.state = .receivingAvatar)
    (hdetects : ∀ p, s.playerData = some p → receivedAvatar p = true → Detects c env l sid s p) :
    UniqueNames (l.handleNetPacketAvatarEnd c env sid s) := by
  simp only [handleNetPacketAvatarEnd]
  split
  · exact hu
  · next p hp =>
      have hdone (hreceived : receivedAvatar p = true) (hash : Option Nat) :=
        unique_establish_avatar hu hs hp (by simp [hstate]) (by simp [hstate]) (hdetects p hp hreceived) hash
      split_ifs with hreceived
      · exact hdone hreceived p.avatarMD5
      · exact hdone hreceived none
      · exact hu.dims (dims_closeSession l sid)

/-- The session moves into a game under a name that no other live session has. -/
theorem unique_moveSessionToGame (hu : UniqueNames l) (hs : l.sessions sid = some s) (hp : s.playerData = some p)
    (gameId : Nat) (hfree : sid ∉ l.gameSessionManager → ∀ t, Live l t p.name → t = sid) :
    UniqueNames (l.moveSessionToGame sid s gameId) := by
  have hother (s' : SessionData) (t : SessionId) (name : Text) (hne : t ≠ sid)
      (h : Live (l.setSession sid s') t name) : Live l t name := (live_setSession_ne hne).mp h
  simp only [moveSessionToGame]
  split_ifs with hmem
  · apply hu.dims
    intro t name h
    by_cases hsid : t = sid
    · subst hsid
      exact absurd h (not_live_closeSession _ t name)
    · have h' := dims_closeSession _ sid t name h
      exact hother { s with state := .game } t name hsid h'
  · have hset : UniqueNames (l.setSession sid { s with state := .game, game := some gameId }) := by
      apply hu.enters sid (hother _)
      intro t name hsid ht
      by_contra hne
      obtain ⟨-, q, hq, hname⟩ := live_setSession_self.mp hsid
      rw [hp] at hq
      cases hq
      exact hne (hfree hmem t (hname ▸ hother _ t name hne ht))
    apply hset.dims
    apply dims_of_sessions
    simp [setSession]

theorem unique_handleReAddedSession (hu : UniqueNames l) (hp : s.playerData = some p)
    (hfree : l.sessionManager.length < SERVER_MAX_NUM_LOBBY_SESSIONS → ∀ t, Live l t p.name → t = sid) :
    UniqueNames (l.handleReAddedSession sid s) := by
  have hother (s' : SessionData) (t : SessionId) (name : Text) (hne : t ≠ sid)
      (h : Live (l.setSession sid s') t name) : Live l t name := (live_setSession_ne hne).mp h
  simp only [handleReAddedSession]
  split_ifs with hroom
  · have hset : UniqueNames (l.setSession sid { s with game := none, state := .established }) := by
      apply hu.enters sid (hother _)
      intro t name hsid ht
      by_contra hne
      obtain ⟨-, q, hq, hname⟩ := live_setSession_self.mp hsid
      rw [hp] at hq
      cases hq
      exact hne (hfree hroom t (hname ▸ hother _ t name hne ht))
    apply hset.dims
    apply dims_of_sessions
    simp [setSession]
  · apply hu.dims
    intro t name h
    by_cases hsid : t = sid
    · subst hsid
      exact absurd h (not_live_closeSession _ t name)
    · have h' := dims_closeSession _ sid t name h
      exact hother { s with game := none } t name hsid h'

def letIn (l : ServerLobbyThread) (s : SessionData) (dbPlayerData : DBPlayerData) (now : Int) : Prop :=
  (dbPlayerData.id = DB_ID_INVALID ∨ s.password ≠ [] ∧ s.password = dbPlayerData.secret) ∧
    l.failedLoginMap.rateLimited s.clientAddr now = false

/-- What the server has to find out is in sight whenever a session is established. -/
def NameChecked (c : ServerConfig) (l : ServerLobbyThread) (e : Event) : Prop :=
  Orderly l e ∧
    match e with
    | .packet sid .unknownAvatar env => ∀ s p, l.sessions sid = some s → s.playerData = some p → s.state = .init →
        Seen c env l sid s p
    | .packet sid .avatarEnd env => ∀ s p, l.sessions sid = some s → s.playerData = some p →
        s.state = .receivingAvatar → receivedAvatar p = true → Seen c env l sid s p
    | .userValid pid data env => ∀ sid s p, l.getSessionByUniquePlayerId l.sessionManager pid true = some sid →
        l.sessions sid = some s → s.playerData = some p → l.letIn s data env.now → Seen c env l sid s p
    | _ => True

theorem unique_join (hu : UniqueNames l) (hs : l.sessions sid = some s)
    (hstate : s.state = .established ∨ s.state = .game) : UniqueNames (l.handleNetPacketJoin env sid s msg) := by
  simp only [handleNetPacketJoin]
  split
  · next p gameId hp hadmits =>
      exact unique_moveSessionToGame hu hs hp gameId fun _ t ht => hu p.name t sid ht ⟨s, hs, hstate, p, hp, rfl⟩
  · exact hu

theorem unique_handlePacket (hr : Registered l) (hids : UniqueIds l) (hu : UniqueNames l) (hs : l.sessions sid = some s)
    (hchecked : NameChecked c l (.packet sid msg env)) : UniqueNames (l.handlePacket c env sid s msg) := by
  have herror : UniqueNames (l.sessionError sid) := hu.dims (dims_closeSession l sid)
  have hclosed := (hchecked.1 s hs).2
  cases hstate : s.state with
  | init =>
      cases msg with
      | init m => simpa only [handlePacket, hstate] using hu.dims (dims_handleNetPacketInit l hstate m)
      | authClientResponse =>
          simp only [handlePacket, hstate]
          exact hu.dims (dims_out (by simp [hstate]) (by simp [hstate]))
      | avatarHeader size type =>
          simpa only [handlePacket, hstate] using hu.dims (dims_handleNetPacketAvatarHeader l size type)
      | unknownAvatar =>
          have h := unique_handleNetPacketUnknownAvatar hu hs hstate fun p hp =>
            (hchecked.2 s p hs hp hstate).detects hr hids hu hs hp
          simpa only [handlePacket, hstate] using h
      | avatarData | avatarEnd | joinNewGame | joinExistingGame | rejoinExistingGame | lobbyRequest | other =>
          simpa only [handlePacket, hstate] using herror
  | receivingAvatar =>
      cases msg with
      | avatarData blockSize =>
          simpa only [handlePacket, hstate] using hu.dims (dims_handleNetPacketAvatarFile l hstate blockSize)
      | avatarEnd =>
          have h := unique_handleNetPacketAvatarEnd hu hs hstate fun p hp hreceived =>
            (hchecked.2 s p hs hp hstate hreceived).detects hr hids hu hs hp
          simpa only [handlePacket, hstate] using h
      | init | authClientResponse | avatarHeader | unknownAvatar | joinNewGame | joinExistingGame
      | rejoinExistingGame | lobbyRequest | other => simpa only [handlePacket, hstate] using herror
  | established | game =>
      cases msg with
      | joinNewGame | joinExistingGame | rejoinExistingGame =>
          simpa only [handlePacket, hstate] using unique_join hu hs (by simp [hstate])
      | lobbyRequest => simpa only [handlePacket, hstate] using hu
      | init | authClientResponse | avatarHeader | unknownAvatar | avatarData | avatarEnd | other =>
          simpa only [handlePacket, hstate] using herror
  | closed =>
      cases msg with
      | joinNewGame | joinExistingGame | rejoinExistingGame =>
          -- nobody who is closed is admitted
          simp only [handlePacket, hstate, handleNetPacketJoin]
          split
          · next p gameId hp hadmits => exact absurd ⟨hstate, by simp [hp], trivial, by simp [hadmits]⟩ hclosed
          · exact hu
      | lobbyRequest => simpa only [handlePacket, hstate] using hu
      | init | authClientResponse | avatarHeader | unknownAvatar | avatarData | avatarEnd | other =>
          simpa only [handlePacket, hstate] using herror

theorem unique_userValid {playerId : Nat} {data : DBPlayerData} (hr : Registered l) (hids : UniqueIds l)
    (hu : UniqueNames l) (hchecked : NameChecked c l (.userValid playerId data env)) :
    UniqueNames (l.userValid c env playerId data) := by
  simp only [userValid]
  split
  · exact hu
  · next sid hfind =>
      split
      · exact hu
      · next s hs =>
          split_ifs with hempty hmatch hlimited
          · exact hu.dims (dims_closeSession l sid)
          · exact hu.dims (dims_closeSession l sid)
          · have herase : UniqueNames { l with failedLoginMap := l.failedLoginMap.erase s.clientAddr } :=
              hu.dims (dims_of_sessions rfl)
            apply unique_establishSession herase hs
            intro p hp
            apply Seen.detects hr hids hu hs hp
            apply hchecked.2 sid s p hfind hs hp
            refine ⟨?_, by simpa using hlimited⟩
            by_cases hid : data.id = DB_ID_INVALID
            · exact .inl hid
            · exact .inr ⟨fun h => hempty ⟨hid, h⟩, hmatch.resolve_left hid⟩
          · exact hu.dims ((dims_of_sessions rfl).trans (dims_closeSession _ sid))

theorem dims_addConnection (l : ServerLobbyThread) (clientAddr : Address) (webData : Bool) :
    Dims l (l.addConnection clientAddr webData) := by
  have hset (state : SessionState) :
      Dims l (l.setSession l.curSessionId ⟨state, clientAddr, webData, none, [], 0, none⟩) := by
    apply dims_setSession
    rintro name ⟨-, p, hp, -⟩
    cases hp
  simp only [addConnection]
  split_ifs
  · exact (hset .closed).trans (dims_of_sessions rfl)
  · exact (hset .init).trans (dims_of_sessions rfl)

theorem unique_fire (hr : Registered l) (hids : UniqueIds l) (hu : UniqueNames l) (hfire : l.fireLogin c e = some l')
    (hchecked : NameChecked c l e) : UniqueNames l' := by
  cases e with
  | addConnection clientAddr webData =>
      cases hfire
      exact hu.dims (dims_addConnection l clientAddr webData)
  | packet sid msg env =>
      cases hfire
      simp only [dispatchPacket]
      split
      · exact hu
      · next s hs =>
          split_ifs
          · exact hu
          · exact unique_handlePacket hr hids hu hs hchecked
  | userValid playerId data env =>
      simp only [fireLogin] at hfire
      split_ifs at hfire
      cases hfire
      have hanswer : Registered (l.answer playerId) := registered_tidy hr (Tidy.of_eq rfl rfl rfl rfl)
      have hanswer' : UniqueIds (l.answer playerId) := hids.keeps (.of_sessions rfl (le_refl _))
      exact @unique_userValid c env (l.answer playerId) playerId data hanswer hanswer' (hu.dims (dims_of_sessions rfl))
        ⟨hchecked.1, fun sid s p hfind hs hp hin => (hchecked.2 sid s p hfind hs hp hin).answer⟩
  | userInvalid playerId now =>
      simp only [fireLogin, fire] at hfire
      split_ifs at hfire
      cases hfire
      have hanswer : UniqueNames (l.answer playerId) := hu.dims (dims_of_sessions rfl)
      simp only [userInvalid]
      split
      · exact hanswer
      · split
        · exact hanswer
        · exact hanswer.dims ((dims_of_sessions rfl).trans (dims_closeSession _ _))
  | userBlocked playerId =>
      simp only [fireLogin, fire] at hfire
      split_ifs at hfire
      cases hfire
      have hanswer : UniqueNames (l.answer playerId) := hu.dims (dims_of_sessions rfl)
      simp only [userBlocked]
      split
      · exact hanswer
      · exact hanswer.dims (dims_closeSession _ _)
  | closeSession sid =>
      cases hfire
      exact hu.dims (dims_closeSession l sid)
  | reAddSession sid =>
      simp only [fireLogin, fire] at hfire
      split at hfire
      · next s hs =>
          split_ifs at hfire with hgame
          cases hfire
          obtain ⟨p, hp⟩ := Option.isSome_iff_exists.mp hgame.2
          have hlive : Live l sid p.name := ⟨s, hs, .inr ((hr.pointer sid s hs).mp hgame.1), p, hp, rfl⟩
          exact unique_handleReAddedSession hu hp fun _ t ht => hu p.name t sid ht hlive
      · cases hfire
  | addComputerPlayer =>
      simp only [fireLogin, fire] at hfire
      split_ifs at hfire
      cases hfire
      exact hu.dims (dims_of_sessions rfl)
  | timerUpdateClientLoginLock now =>
      cases hfire
      exact hu.dims (dims_of_sessions rfl)
  | timerCleanupRateMaps now =>
      cases hfire
      exact hu.dims (dims_of_sessions rfl)

structure OneOfName (l : ServerLobbyThread) : Prop where
  registered : Registered l
  ids : UniqueIds l
  names : UniqueNames l

theorem oneOfName_initial : OneOfName initial := by
  refine ⟨registered_initial, uniqueIds_initial, ?_⟩
  rintro name sid sid' ⟨s, ⟨⟩, -⟩

theorem OneOfName.fire (h : OneOfName l) (hfire : l.fireLogin c e = some l') (hchecked : NameChecked c l e) :
    OneOfName l' := by
  obtain ⟨hr, hids⟩ := registered_fire h.registered h.ids hfire hchecked.1
  exact ⟨hr, hids, unique_fire h.registered h.ids h.names hfire hchecked⟩

/-- As long as nothing hides a session from the server that establishes another one, no two live sessions carry one
name. -/
theorem one_session_per_name {hist : History} (hrun : Trace (fireLogin c) (NameChecked c) initial hist l)
    (hlive : Live l sid name) (hlive' : Live l t name) : sid = t := by
  have hstep (hist : History) (l : ServerLobbyThread) (e : Event) (l' : ServerLobbyThread) (h : OneOfName l)
      (hfire : l.fireLogin c e = some l') (hchecked : NameChecked c l e) : OneOfName l' := h.fire hfire hchecked
  have h : OneOfName l := Trace.invariant oneOfName_initial hstep hrun
  exact h.names name sid t hlive hlive'

/-- Whether the steps of a run are checked can be computed where no session sends its avatar. -/
def inSight (l : ServerLobbyThread) : Event → Bool
  | .packet sid msg env => (l.sessions sid).all fun s => s.state != .closed &&
      s.playerData.all (fun p => env.getRejoinGame p.name p.oldGuid != some p.uniqueId) &&
      match msg with
      | .unknownAvatar | .avatarEnd => false
      | _ => true
  | .userValid pid _ env => (l.getSessionByUniquePlayerId l.sessionManager pid true).all fun sid =>
      ((l.sessions sid).bind fun s => s.playerData).all fun p =>
        env.getRejoinGame p.name p.oldGuid != some p.uniqueId &&
        (List.range l.curSessionId).all fun t => (l.sessions t).all fun u => u.state != .receivingAvatar &&
          (t == sid || u.playerData.all (fun q => q.name != p.name) || u.state == .init || u.state == .closed ||
            (rejoinPlayer env p).all (fun id => playerId u == some id) && env.inGame t)
  | _ => true

theorem nameChecked_of_inSight (hr : Registered l) (hsight : l.inSight e = true) : NameChecked c l e := by
  cases e with
  | packet sid msg env =>
      have horderly : Orderly l (.packet sid msg env) := by
        intro s hs
        simp only [inSight, hs, Option.all_some, Bool.and_eq_true, bne_iff_ne, Option.all_eq_true] at hsight
        exact ⟨hsight.1.2, fun h => hsight.1.1 h.1⟩
      refine ⟨horderly, ?_⟩
      cases msg with
      | unknownAvatar | avatarEnd =>
          intro s p hs
          simp [inSight, hs] at hsight
      | init | authClientResponse | avatarHeader | avatarData | joinNewGame | joinExistingGame | rejoinExistingGame
      | lobbyRequest | other => exact trivial
  | userValid pid data env =>
      have hsees (sid : SessionId) (s : SessionData) (p : PlayerData)
          (hfind : l.getSessionByUniquePlayerId l.sessionManager pid true = some sid) (hs : l.sessions sid = some s)
          (hp : s.playerData = some p) : env.getRejoinGame p.name p.oldGuid ≠ some p.uniqueId ∧
            ∀ t u, l.sessions t = some u → u.state ≠ .receivingAvatar ∧
              (t ≠ sid → Bears u p.name → (∀ id, rejoinPlayer env p = some id → playerId u = some id) ∧ env.inGame t) := by
        simp only [inSight, hfind, hs, Option.all_some, Option.bind_some, hp, Bool.and_eq_true, bne_iff_ne,
          List.all_eq_true, List.mem_range, Option.all_eq_true, Bool.or_eq_true, beq_iff_eq] at hsight
        refine ⟨hsight.1, fun t u hu => ?_⟩
        obtain ⟨havatar, hcases⟩ := hsight.2 t (hr.newSession t u hu) u hu
        refine ⟨havatar, fun hne hb => ?_⟩
        obtain ⟨hlive, q, hq, hname⟩ := hb
        rcases hcases with (((hsid | hother) | hinit) | hclosed) | ⟨hseat, hgame⟩
        · exact absurd hsid hne
        · exact absurd hname (hother q hq)
        · simp [hinit] at hlive
        · simp [hclosed] at hlive
        · exact ⟨hseat, hgame⟩
      refine ⟨fun sid s hfind hs p hp => (hsees sid s p hfind hs hp).1, fun sid s p hfind hs hp _ t u hne hu hb => ?_⟩
      obtain ⟨-, hall⟩ := hsees sid s p hfind hs hp
      obtain ⟨hseat, hgame⟩ := (hall t u hu).2 hne hb
      refine ⟨hseat, fun _ r _ hhides => ?_, fun _ _ => hgame⟩
      obtain ⟨v, _, hv, havatar, _⟩ := hhides
      exact (hall r v hv).1 havatar
  | addConnection | userInvalid | userBlocked | closeSession | reAddSession | addComputerPlayer
  | timerUpdateClientLoginLock | timerCleanupRateMaps => exact ⟨trivial, trivial⟩

def seatEnvironment : Environment :=
  { openEnvironment with getRejoinGame := fun _ guid => if guid = ['g'] then some 1 else none }

def rejoinInit : InitMessage := { playerInit with myLastSessionId := ['g'] }

def isMe (l : ServerLobbyThread) (sid : SessionId) : Bool :=
  (l.sessions sid).any fun s =>
    (s.state == .established || s.state == .game) && s.playerData.any fun p => p.name == ['m', 'e']

theorem live_of_isMe (htest : l.isMe sid = true) : Live l sid ['m', 'e'] := by
  obtain ⟨s, hs, hbears⟩ := (Option.any_eq_true _ _).mp htest
  simp only [Bool.and_eq_true, Bool.or_eq_true, beq_iff_eq, Option.any_eq_true] at hbears
  exact ⟨s, hs, hbears⟩

/-- A player logs in and joins a game. He comes back for his seat with a new session, and later without his old guid,
each time before the server knows that the old session is gone. -/
theorem one_session_per_name_login : ∃ hist l, Trace (fireLogin officialConfig) (NameChecked officialConfig) initial hist l ∧
    Live l 3 ['m', 'e'] ∧ ∀ sid, Live l sid ['m', 'e'] → sid = 3 := by
  obtain ⟨hist, l, hrun, htest⟩ := Runs.exists_trace_of_inv (fireLogin officialConfig) (NameChecked officialConfig) inSight
    initial [.addConnection 7 false, .packet 1 (.init playerInit) seatEnvironment,
      .userValid 1 ⟨3, ['p', 'w']⟩ seatEnvironment, .packet 1 .joinNewGame seatEnvironment, .addConnection 7 false,
      .packet 2 (.init rejoinInit) seatEnvironment, .userValid 2 ⟨3, ['p', 'w']⟩ seatEnvironment,
      .packet 2 (.rejoinExistingGame 1) seatEnvironment, .addConnection 7 false,
      .packet 3 (.init playerInit) seatEnvironment, .userValid 3 ⟨3, ['p', 'w']⟩ seatEnvironment]
    (fun l => l.isMe 3) (by decide +kernel) OneOfName oneOfName_initial (fun _ _ _ h hchecked hfire => h.fire hfire hchecked)
    fun _ _ h hsight => nameChecked_of_inSight h.registered hsight
  have hlive := live_of_isMe htest
  exact ⟨hist, l, hrun, hlive, fun sid h => one_session_per_name hrun h hlive⟩

/-- A player logs in, joins a game and disconnects, and two clients then log in with the guid of his seat. Or he is in
the game while another client, whose avatar is being received, logs in under his name. -/
theorem two_sessions_per_name :
    (∃ hist l, Trace (fireLogin officialConfig) (fun _ _ => True) initial hist l ∧
      Live l 2 ['m', 'e'] ∧ Live l 3 ['m', 'e']) ∧
    ∃ hist l, Trace (fireLogin officialConfig) (fun _ _ => True) initial hist l ∧
      Live l 1 ['m', 'e'] ∧ Live l 2 ['m', 'e'] := by
  have hplay (es : List Event) (a b : SessionId) (htest : (Runs.play (fireLogin officialConfig) (fun _ _ => true) initial
      es).any (fun l => l.isMe a && l.isMe b) = true) :
      ∃ hist l, Trace (fireLogin officialConfig) (fun _ _ => True) initial hist l ∧
        Live l a ['m', 'e'] ∧ Live l b ['m', 'e'] := by
    obtain ⟨hist, l, hrun, htest⟩ := Runs.exists_trace (fireLogin officialConfig) (fun _ _ => True) (fun _ _ => true)
      initial es _ htest (fun _ _ _ => trivial)
    rw [Bool.and_eq_true] at htest
    exact ⟨hist, l, hrun, live_of_isMe htest.1, live_of_isMe htest.2⟩
  constructor
  · apply hplay [.addConnection 7 false, .packet 1 (.init playerInit) seatEnvironment,
      .userValid 1 ⟨3, ['p', 'w']⟩ seatEnvironment, .packet 1 .joinNewGame seatEnvironment, .closeSession 1,
      .addConnection 7 false, .packet 2 (.init rejoinInit) seatEnvironment,
      .userValid 2 ⟨3, ['p', 'w']⟩ seatEnvironment, .addConnection 8 false,
      .packet 3 (.init rejoinInit) seatEnvironment, .userValid 3 ⟨3, ['p', 'w']⟩ seatEnvironment] 2 3
    decide +kernel
  · apply hplay [.addConnection 7 false, .packet 1 (.init playerInit) openEnvironment,
      .userValid 1 ⟨3, ['p', 'w']⟩ openEnvironment, .packet 1 .joinNewGame openEnvironment,
      .addConnection 8 false, .packet 2 (.init playerInit) openEnvironment,
      .packet 2 (.avatarHeader 100 1) openEnvironment, .userValid 2 ⟨3, ['p', 'w']⟩ openEnvironment] 1 2
    decide +kernel

end ServerLobbyThread

end PokerTH.Lobby
