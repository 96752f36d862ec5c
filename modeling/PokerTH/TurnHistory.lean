import PokerTH.RunOut

namespace PokerTH.HandRun

open Hand PokerTH.Lists

/-- What a run of a hand notes down: whose turn it was, who raised the highest set, a new round. -/
inductive Note
  | turn (r : Ref)
  | raise (r : Ref)
  | round
  deriving DecidableEq, Repr

variable {maxPlayers : Nat} {total : Int} {t : Table} {g : Game} {h h' j k u v : Hand} {s s' : State}
  {r p c c' n last : Ref} {action : PlayerAction} {bet : Int} {hist notes : List Note}

def raised (h h' : Hand) (r : Ref) : List Note :=
  if h.getCurrentBeRo.highestSet < h'.getCurrentBeRo.highestSet then [.raise r] else []

inductive Noted (maxPlayers : Nat) : State → List Note → State → Prop
  | nextRound {h h' : Hand} {showCards : Bool} (hrun : h.engineLoop maxPlayers = .ok (.nextRound h' showCards)) :
      Noted maxPlayers ⟨h, .loop⟩ [.round] ⟨h', .loop⟩
  | playersTurn {h h' : Hand} {r : Ref} (hrun : h.engineLoop maxPlayers = .ok (.playersTurn h' r)) :
      Noted maxPlayers ⟨h, .loop⟩ [.turn r] ⟨h', .waitPlayerAction⟩
  | foldDisconnected {h h' : Hand} {r : Ref} (hrun : h.engineLoop maxPlayers = .ok (.playersTurn h' r)) :
      Noted maxPlayers ⟨h, .loop⟩ ([.turn r] ++ raised h' (h'.performPlayerAction r .fold 0) r)
        ⟨h'.performPlayerAction r .fold 0, .loop⟩
  | endOfHand {h h' : Hand} (hrun : h.engineLoop maxPlayers = .ok (.endOfHand h')) :
      Noted maxPlayers ⟨h, .loop⟩ [] ⟨h', .handOver⟩
  | accepted {h h' : Hand} {id : Nat} {r : Ref} {req filled : MyActionRequest}
      (hplayer : h.getPlayerByUniqueId id = some r)
      (hrun : h.handleMyAction r req = .ok (.valid, filled, h')) :
      Noted maxPlayers ⟨h, .waitPlayerAction⟩ (raised h h' r) ⟨h', .loop⟩
  | timeout {h : Hand} {r : Ref} (hplayer : h.getCurrentPlayer = .ok r) :
      Noted maxPlayers ⟨h, .waitPlayerAction⟩ (raised h (h.timeoutAction r) r) ⟨h.timeoutAction r, .loop⟩

theorem Noted.step (hn : Noted maxPlayers s notes s') : Step maxPlayers s s' := by
  cases hn with
  | nextRound hrun => exact .nextRound hrun
  | playersTurn hrun => exact .playersTurn hrun
  | foldDisconnected hrun => exact .foldDisconnected hrun
  | endOfHand hrun => exact .endOfHand hrun
  | accepted hplayer hrun => exact .accepted hplayer hrun
  | timeout hplayer => exact .timeout hplayer

theorem noted_of_step (hstep : Step maxPlayers s s') : ∃ notes, Noted maxPlayers s notes s' := by
  cases hstep with
  | nextRound hrun => exact ⟨_, .nextRound hrun⟩
  | playersTurn hrun => exact ⟨_, .playersTurn hrun⟩
  | foldDisconnected hrun => exact ⟨_, .foldDisconnected hrun⟩
  | endOfHand hrun => exact ⟨_, .endOfHand hrun⟩
  | accepted hplayer hrun => exact ⟨_, .accepted hplayer hrun⟩
  | timeout hplayer => exact ⟨_, .timeout hplayer⟩

def TurnSeen (hist : List Note) (r : Ref) : Prop :=
  ∃ before after, hist = before ++ .turn r :: after ∧ .round ∉ after

/-- `r` was given the turn in this round, and since then nobody else has raised the highest set. -/
def HadTurn (hist : List Note) (r : Ref) : Prop :=
  ∃ before after, hist = before ++ .turn r :: after ∧ .round ∉ after ∧ ∀ q, .raise q ∈ after → q = r

theorem hadTurn_turn (hist : List Note) (r : Ref) : HadTurn (hist ++ [.turn r]) r :=
  ⟨hist, [], rfl, by simp, by simp⟩

theorem HadTurn.seen (hh : HadTurn hist r) : TurnSeen hist r := by
  obtain ⟨before, after, he, hround, _⟩ := hh
  exact ⟨before, after, he, hround⟩

theorem HadTurn.append (hh : HadTurn hist r) (hround : .round ∉ notes) (hraise : ∀ q, .raise q ∈ notes → q = r) :
    HadTurn (hist ++ notes) r := by
  obtain ⟨before, after, rfl, hround', hraise'⟩ := hh
  refine ⟨before, after ++ notes, by simp, ?_, fun q hq => ?_⟩
  · rw [List.mem_append]
    exact fun hmem => hmem.elim hround' hround
  · rcases List.mem_append.mp hq with hq | hq
    · exact hraise' q hq
    · exact hraise q hq

theorem TurnSeen.append (hh : TurnSeen hist r) (hround : .round ∉ notes) : TurnSeen (hist ++ notes) r := by
  obtain ⟨before, after, rfl, hround'⟩ := hh
  refine ⟨before, after ++ notes, by simp, ?_⟩
  rw [List.mem_append]
  exact fun hmem => hmem.elim hround' hround

theorem turnSeen_of_append (hh : TurnSeen (hist ++ notes) r) (hturn : .turn r ∉ notes) : TurnSeen hist r := by
  obtain ⟨before, after, he, hround⟩ := hh
  rcases List.append_eq_append_iff.mp he with ⟨as, hbefore, hnotes⟩ | ⟨bs, hhist, hafter⟩
  · exact absurd (by simp [hnotes]) hturn
  · cases bs with
    | nil =>
        rw [List.nil_append] at hafter
        exact absurd (by simp [← hafter]) hturn
    | cons b bs =>
        obtain ⟨rfl, rfl⟩ : .turn r = b ∧ after = bs ++ notes := by simpa using hafter
        refine ⟨before, bs, hhist, fun hmem => hround ?_⟩
        exact List.mem_append_left notes hmem

theorem raised_round : .round ∉ raised h h' r := by
  simp only [raised]
  split_ifs <;> simp

theorem raised_turn : .turn p ∉ raised h h' r := by
  simp only [raised]
  split_ifs <;> simp

theorem raised_raise {q : Ref} (hq : .raise q ∈ raised h h' r) :
    q = r ∧ h.getCurrentBeRo.highestSet < h'.getCurrentBeRo.highestSet := by
  simp only [raised] at hq
  split_ifs at hq with hlt
  · simp only [List.mem_singleton, Note.raise.injEq] at hq
    exact ⟨hq, hlt⟩
  · simp at hq

/-- The first round goes round the running players once, from `c` to the last one; and who had his turn
before a raise has not put in the highest set since. -/
structure Ahead (hist : List Note) (h : Hand) (c : Ref) : Prop where
  ahead : h.getCurrentBeRo.firstRound = true → ∃ last ∈ h.runningPlayerList,
    h.getCurrentBeRo.firstRoundLastPlayersTurnId = h.uniqueID last ∧
      ∀ p ∈ Cyclic.beyond h.runningPlayerList c last, TurnSeen hist p
  done : h.getCurrentBeRo.firstRound = false → ∀ p ∈ h.runningPlayerList, TurnSeen hist p
  kept : ∀ p ∈ h.runningPlayerList, TurnSeen hist p →
    HadTurn hist p ∨ (h.players p).mySet < h.getCurrentBeRo.highestSet

structure OnTurn (hist : List Note) (h : Hand) (c : Ref) : Prop where
  mem : c ∈ h.runningPlayerList
  turn : h.getCurrentBeRo.currentPlayersTurnId = h.uniqueID c
  ahead : Ahead hist h c
  before : h.getCurrentBeRo.firstRound = true →
    h.getCurrentBeRo.currentPlayersTurnId ≠ h.getCurrentBeRo.firstRoundLastPlayersTurnId

theorem refresh_lastId (h : Hand) : h.refreshRunningPlayerList.getCurrentBeRo.firstRoundLastPlayersTurnId =
    h.getCurrentBeRo.firstRoundLastPlayersTurnId :=
  eraseRunning_preserves (fun k => k.getCurrentBeRo.firstRoundLastPlayersTurnId)
    (fun k id => by simp [setCurrentPlayersTurnId]) (fun _ _ => rfl) h _ _

/-- After the action of `c`, the engine starts from the player whom the running list leaves in his place. -/
theorem ahead_refresh (ho : OnTurn hist h c)
    (hk : TurnKept h c c') (hu : SameTable h.refreshRunningPlayerList u)
    (hbeRo : u.getCurrentBeRo = h.refreshRunningPlayerList.getCurrentBeRo) (hmem : c' ∈ u.runningPlayerList) :
    Ahead hist u c' := by
  have hrunning := hu.running
  have hfirst : u.getCurrentBeRo.firstRound = h.getCurrentBeRo.firstRound := by
    rw [hbeRo]
    exact eraseRunning_preserves (fun k => k.getCurrentBeRo.firstRound)
      (fun k id => by simp [setCurrentPlayersTurnId]) (fun _ _ => rfl) h _ _
  have hlastId : u.getCurrentBeRo.firstRoundLastPlayersTurnId = h.getCurrentBeRo.firstRoundLastPlayersTurnId := by
    rw [hbeRo, refresh_lastId]
  have hhighest : u.getCurrentBeRo.highestSet = h.getCurrentBeRo.highestSet := by
    rw [hbeRo, getCurrentBeRo, refresh_currentRound]
    exact (sameLimits_refresh h).highestSet _
  have hid (q : Ref) : u.uniqueID q = h.uniqueID q := frame_myUniqueID (hu.frame.trans (frame_refresh h)) q
  have hplayers : u.players = h.players := hu.players.trans (refresh_players h)
  have hsub (q : Ref) (hq : q ∈ u.runningPlayerList) : q ∈ h.runningPlayerList := by
    rw [hrunning, refresh_runningPlayerList] at hq
    exact List.mem_of_mem_filter hq
  refine ⟨fun htrue => ?_, fun hfalse p hp => ?_, fun p hp hseen => ?_⟩
  · rw [hfirst] at htrue
    obtain ⟨last, hlast, hid', hbeyond⟩ := ho.ahead.ahead htrue
    have hne : last ≠ c := by
      rintro rfl
      exact ho.before htrue (ho.turn.trans hid'.symm)
    cases hk with
    | stays hstay hc hrefresh =>
        subst hc
        rw [hrefresh] at hrunning
        refine ⟨last, ?_, ?_, ?_⟩
        · rwa [hrunning]
        · rw [hlastId, hid, hid']
        · rwa [hrunning]
    | leaves hleave hafter =>
        have hafter' : Cyclic.after h.runningPlayerList c = Cyclic.after u.runningPlayerList c' ++ [c] := by
          rwa [hrunning]
        have hlast' : last ∈ Cyclic.after u.runningPlayerList c' := by
          have hmem' := (Cyclic.mem_after ho.mem).mpr hlast
          rw [hafter', List.mem_append, List.mem_singleton] at hmem'
          exact hmem'.resolve_right hne
        refine ⟨last, (Cyclic.mem_after hmem).mp hlast', ?_, fun p hp => hbeyond p ?_⟩
        · rw [hlastId, hid, hid']
        · rw [Cyclic.beyond_erase hlast' hafter']
          exact List.mem_append_left _ hp
  · rw [hfirst] at hfalse
    exact ho.ahead.done hfalse p (hsub p hp)
  · rw [hplayers, hhighest]
    exact ho.ahead.kept p (hsub p hp) hseen

/-- The first run of the betting round starts with the last player of the round. -/
theorem ahead_start (hs : Seated maxPlayers u) (hsub : u.runningPlayerList.Sublist u.activePlayerList)
    (hmem : c ∈ u.runningPlayerList) (hfirst : u.getCurrentBeRo.firstRound = true) :
    Ahead [] (u.preflopStart (u.uniqueID c)) c := by
  have hsame := sameTable_preflopStart u (u.uniqueID c)
  have hbeRo := preflopStart_beRo u (u.uniqueID c)
  have hnone (p : Ref) : ¬ TurnSeen [] p := by
    rintro ⟨before, after, he, _⟩
    simp at he
  refine ⟨fun _ => ⟨c, ?_, ?_, fun p hp => ?_⟩, fun hfalse => ?_, fun p _ hseen => absurd hseen (hnone p)⟩
  · rwa [hsame.running]
  · rw [hbeRo]
    exact (frame_myUniqueID hsame.frame c).symm
  · rw [hsame.running, Cyclic.beyond_self (running_nodup hs hsub) hmem] at hp
    simp at hp
  · rw [hbeRo] at hfalse
    rw [hfirst] at hfalse
    cases hfalse

theorem turnToNext_beRo (hj : v.turnToNext = .ok j) (hasks : Asks v j n) : j.getCurrentBeRo =
    { v.getCurrentBeRo with currentPlayersTurnId := v.uniqueID n } := by
  obtain ⟨it, _, rfl⟩ := turnToNext_cases hj
  have hturn := hasks.turn
  rw [setCurrentPlayersTurnId, getCurrentBeRo_setBeRo] at hturn ⊢
  rw [← hturn]

theorem endFirstRound_lastId (h : Hand) : h.endFirstRound.getCurrentBeRo.firstRoundLastPlayersTurnId =
    h.getCurrentBeRo.firstRoundLastPlayersTurnId := by
  simp only [endFirstRound]
  split_ifs
  · rw [setFirstRound, getCurrentBeRo_setBeRo]
  · rfl

theorem endFirstRound_highestSet (h : Hand) : h.endFirstRound.getCurrentBeRo.highestSet = h.getCurrentBeRo.highestSet := by
  simp only [endFirstRound]
  split_ifs
  · rw [setFirstRound, getCurrentBeRo_setBeRo]
  · rfl

theorem onTurn_asks (hs : Seated maxPlayers v) (hsub : v.runningPlayerList.Sublist v.activePlayerList)
    (ha : Ahead hist v c) (hmem : c ∈ v.runningPlayerList) (hj : v.turnToNext = .ok j)
    (hasks : Asks v j (Cyclic.next v.runningPlayerList c)) :
    OnTurn (hist ++ [.turn (Cyclic.next v.runningPlayerList c)]) j.endFirstRound (Cyclic.next v.runningPlayerList c) ∧
      HadTurn (hist ++ [.turn (Cyclic.next v.runningPlayerList c)]) (Cyclic.next v.runningPlayerList c) := by
  have hnodup := running_nodup hs hsub
  have hbeRo := turnToNext_beRo hj hasks
  have hend := asks_endFirstRound hasks
  have hrunning := hend.running
  have hid (q : Ref) : j.endFirstRound.uniqueID q = v.uniqueID q := by
    simp only [uniqueID, hend.players]
  obtain ⟨n, R, hafter⟩ : ∃ n R, Cyclic.after v.runningPlayerList c = n :: R :=
    List.exists_cons_of_ne_nil (by simp [Cyclic.after])
  have hnext : Cyclic.next v.runningPlayerList c = n := by
    rw [Cyclic.next, hafter]
    rfl
  rw [hnext] at hasks hbeRo ⊢
  have hn : n ∈ v.runningPlayerList := hnext ▸ Cyclic.next_mem hmem
  have hfirst : j.endFirstRound.getCurrentBeRo.firstRound =
      (v.getCurrentBeRo.firstRound && v.uniqueID n != v.getCurrentBeRo.firstRoundLastPlayersTurnId) := by
    rw [endFirstRound_firstRound, hbeRo]
  have hlastId : j.endFirstRound.getCurrentBeRo.firstRoundLastPlayersTurnId =
      v.getCurrentBeRo.firstRoundLastPlayersTurnId := by
    rw [endFirstRound_lastId, hbeRo]
  have hturn : j.endFirstRound.getCurrentBeRo.currentPlayersTurnId = v.uniqueID n := by
    rw [endFirstRound_turnId, hbeRo]
  have hhighest : j.endFirstRound.getCurrentBeRo.highestSet = v.getCurrentBeRo.highestSet := by
    rw [endFirstRound_highestSet, hbeRo]
  have hseen (p : Ref) (hp : TurnSeen hist p) : TurnSeen (hist ++ [.turn n]) p := hp.append (by simp)
  have hhad := hadTurn_turn hist n
  refine ⟨⟨by rwa [hrunning], by rw [hturn, hid], ⟨fun htrue => ?_, fun hfalse p hp => ?_, fun p hp hp' => ?_⟩,
    fun htrue => ?_⟩, hhad⟩
  · rw [hfirst, Bool.and_eq_true, bne_iff_ne] at htrue
    obtain ⟨last, hlast, hlid, hbeyond⟩ := ha.ahead htrue.1
    have hne : n ≠ last := by
      rintro rfl
      exact htrue.2 hlid.symm
    refine ⟨last, by rwa [hrunning], by rw [hlastId, hid, hlid], fun p hp => ?_⟩
    rw [hrunning, Cyclic.beyond_next hnodup hmem hlast hafter hne, List.mem_append, List.mem_singleton] at hp
    rcases hp with hp | rfl
    · exact hseen p (hbeyond p hp)
    · exact hhad.seen
  · rw [hrunning] at hp
    rw [hfirst, Bool.and_eq_false_iff, bne_eq_false_iff_eq] at hfalse
    rcases hfalse with hfalse | hfalse
    · exact hseen p (ha.done hfalse p hp)
    · cases hv : v.getCurrentBeRo.firstRound with
      | false => exact hseen p (ha.done hv p hp)
      | true =>
          obtain ⟨last, hlast, hlid, hbeyond⟩ := ha.ahead hv
          have heq := uniqueID_inj hs hsub hlast hn (hfalse.trans hlid)
          subst heq
          have hp' := (Cyclic.mem_after hmem).mpr hp
          rw [Cyclic.beyond_next_last hafter] at hbeyond
          rw [hafter, List.mem_cons] at hp'
          rcases hp' with rfl | hp'
          · exact hhad.seen
          · exact hseen p (hbeyond p hp')
  · by_cases hpn : p = n
    · rw [hpn]
      exact .inl hhad
    · rw [hrunning] at hp
      have hp'' := turnSeen_of_append hp' (by simpa using hpn)
      rw [hend.players, hhighest]
      rcases ha.kept p hp hp'' with hkept | hkept
      · exact .inl (hkept.append (by simp) (by simp))
      · exact .inr hkept
  · rw [hfirst, Bool.and_eq_true, bne_iff_ne] at htrue
    rw [hturn, hlastId]
    exact htrue.2

theorem OnTurn.congr (ho : OnTurn hist h c) (hrun : h'.runningPlayerList = h.runningPlayerList)
    (hid : ∀ q, h'.uniqueID q = h.uniqueID q) (hbeRo : h'.getCurrentBeRo = h.getCurrentBeRo)
    (hset : ∀ q, (h'.players q).mySet = (h.players q).mySet) : OnTurn hist h' c := by
  refine ⟨?_, ?_, ⟨?_, ?_, ?_⟩, ?_⟩
  · rw [hrun]
    exact ho.mem
  · rw [hbeRo, hid]
    exact ho.turn
  · simpa only [hbeRo, hrun, hid] using ho.ahead.ahead
  · simpa only [hbeRo, hrun] using ho.ahead.done
  · simpa only [hbeRo, hrun, hset] using ho.ahead.kept
  · simpa only [hbeRo] using ho.before

theorem perform_lastId (h : Hand) (r : Ref) (action : PlayerAction) (bet : Int) :
    (h.performPlayerAction r action bet).getCurrentBeRo.firstRoundLastPlayersTurnId =
      h.getCurrentBeRo.firstRoundLastPlayersTurnId :=
  performPlayerAction_preserves h r action bet (fun h => h.getCurrentBeRo.firstRoundLastPlayersTurnId) (fun _ _ => rfl)
    (fun _ _ => by simp [setMinimumRaise]) (fun _ _ => rfl) (fun _ _ => by simp [setHighestSet]) fun _ _ => rfl

theorem perform_highestSet_ge (h : Hand) (r : Ref) (action : PlayerAction) (bet : Int) :
    h.getCurrentBeRo.highestSet ≤ (h.performPlayerAction r action bet).getCurrentBeRo.highestSet := by
  by_cases hp : Passive action
  · rw [performPlayerAction_passive h r action bet hp]
    rfl
  · rw [perform_highestSet_active h r action bet hp]
    exact le_max_left _ _

/-- The action of `c` is noted; who owes chips after it has still to be asked. -/
theorem onTurn_perform (ho : OnTurn hist h c) (hhad : HadTurn hist c)
    (hset : ∀ p ∈ h.runningPlayerList, (h.players p).mySet ≤ h.getCurrentBeRo.highestSet) (action : PlayerAction)
    (bet : Int) : OnTurn (hist ++ raised h (h.performPlayerAction c action bet) c)
      (h.performPlayerAction c action bet) c := by
  have hrun := perform_runningPlayerList h c action bet
  have hfirst := perform_firstRound h c action bet
  have hturn := perform_currentPlayersTurnId h c action bet
  have hlastId := perform_lastId h c action bet
  have hhigh := perform_highestSet_ge h c action bet
  have hid (q : Ref) : (h.performPlayerAction c action bet).uniqueID q = h.uniqueID q :=
    frame_myUniqueID (frame_performPlayerAction h c action bet) q
  have hseen (p : Ref) (hp : TurnSeen hist p) : TurnSeen (hist ++ raised h (h.performPlayerAction c action bet) c) p :=
    hp.append raised_round
  refine ⟨by rw [hrun]; exact ho.mem, by rw [hturn, hid]; exact ho.turn, ⟨fun htrue => ?_, fun hfalse p hp => ?_,
    fun p hp hp' => ?_⟩, ?_⟩
  · rw [hfirst] at htrue
    obtain ⟨last, hlast, hlid, hbeyond⟩ := ho.ahead.ahead htrue
    refine ⟨last, by rwa [hrun], by rw [hlastId, hid, hlid], fun p hp => ?_⟩
    rw [hrun] at hp
    exact hseen p (hbeyond p hp)
  · rw [hrun] at hp
    rw [hfirst] at hfalse
    exact hseen p (ho.ahead.done hfalse p hp)
  · rw [hrun] at hp
    by_cases hpc : p = c
    · subst hpc
      exact .inl (hhad.append raised_round fun q hq => (raised_raise hq).1)
    · rw [perform_players_of_ne h c action bet hpc]
      rcases ho.ahead.kept p hp (turnSeen_of_append hp' raised_turn) with hkept | hkept
      · by_cases hlt : h.getCurrentBeRo.highestSet <
            (h.performPlayerAction c action bet).getCurrentBeRo.highestSet
        · exact .inr (lt_of_le_of_lt (hset p hp) hlt)
        · exact .inl (hkept.append raised_round fun q hq => absurd (raised_raise hq).2 hlt)
      · exact .inr (lt_of_lt_of_le hkept hhigh)
  · rw [hfirst, hturn, hlastId]
    exact ho.before

inductive Given (hist : List Note) : State → Prop
  | dealt {h : Hand} (hempty : hist = []) (hround : h.currentRound = .preflop)
      (hgui : h.getCurrentBeRo.firstRunGui = true) : Given hist ⟨h, .loop⟩
  | acted {h : Hand} {c : Ref} (hround : h.currentRound = .preflop) (hgui : h.getCurrentBeRo.firstRunGui = false)
      (ho : OnTurn hist h c) : Given hist ⟨h, .loop⟩
  | waiting {h : Hand} {c : Ref} (hround : h.currentRound = .preflop) (hgui : h.getCurrentBeRo.firstRunGui = false)
      (ho : OnTurn hist h c) (hhad : HadTurn hist c) : Given hist ⟨h, .waitPlayerAction⟩
  | later {s : State} (hround : s.hand.currentRound ≠ .preflop) : Given hist s

theorem ahead_turn (hs : Seated maxPlayers h) (hl : Labelled h) (hg : Given hist ⟨h, .loop⟩)
    (hround : h.currentRound = .preflop) (hu : h.switchRounds = h.refreshRunningPlayerList.noteRound)
    (hmem : c ∈ h.switchRounds.runningPlayerList) (hv : PreflopTurn h h.switchRounds c v) : Ahead hist v c := by
  have hsame : SameTable h.refreshRunningPlayerList h.switchRounds := hu ▸ sameTable_noteRound _
  have hbeRo : h.switchRounds.getCurrentBeRo = h.refreshRunningPlayerList.getCurrentBeRo := by
    obtain ⟨round, hnote⟩ := noteRound_eq h.refreshRunningPlayerList
    rw [hu, hnote]
    rfl
  have hgui : h.switchRounds.getCurrentBeRo.firstRunGui = h.getCurrentBeRo.firstRunGui := by
    rw [hbeRo]
    exact eraseRunning_preserves (fun k => k.getCurrentBeRo.firstRunGui)
      (fun k id => by simp [setCurrentPlayersTurnId]) (fun _ _ => rfl) h _ _
  have hsu := hs.congr (frame_switchRounds h)
  have hsub : h.switchRounds.runningPlayerList.Sublist h.switchRounds.activePlayerList :=
    (hl.refresh.congr hsame.labels).sub
  cases hv with
  | start hgui' hfirst =>
      rw [hgui] at hgui'
      cases hg with
      | dealt hempty =>
          subst hempty
          exact ahead_start hsu hsub hmem hfirst
      | acted _ hgui'' =>
          rw [hgui'] at hgui''
          cases hgui''
      | later hne => exact absurd hround hne
  | later hgui' hacted hkept =>
      rw [hgui] at hgui'
      cases hg with
      | dealt _ _ hgui'' =>
          rw [hgui'] at hgui''
          cases hgui''
      | acted _ _ ho =>
          have hsame' := uniqueID_inj hs hl.sub hacted.running ho.mem (ho.turn.symm.trans hacted.turn)
          subst hsame'
          exact ahead_refresh ho hkept hsame hbeRo hmem
      | later hne => exact absurd hround hne

/-- When the engine asks somebody before the flop, it is his turn and he has been given it. -/
theorem onTurn_engine (hp : Played maxPlayers total ⟨h, .loop⟩) (hg : Given hist ⟨h, .loop⟩)
    (hloop : h.engineLoop maxPlayers = .ok (.playersTurn k r)) (hround : k.currentRound = .preflop) :
    k.getCurrentBeRo.firstRunGui = false ∧ OnTurn (hist ++ [.turn r]) k r ∧ HadTurn (hist ++ [.turn r]) r := by
  obtain ⟨hc, ho, hgo, _⟩ := hp
  obtain ⟨k', hk, hcases⟩ := engineLoop_cases hloop
  cases hcases with
  | playersTurn hsame hopen hall hplayer _ =>
      have hgui := ((going_playersTurn hc ho hgo hk hsame hopen hall).1 hround).1
      rw [hsame] at hround
      refine ⟨hgui, ?_⟩
      cases hgo with
      | runOut htrue hn =>
          have hout := runsOut_of_detected hn (.inr htrue)
          have hk' := advance_allIn hout.all
          rw [hk] at hk'
          cases hk'
          rw [hout.all] at hall
          cases hall
      | betting hfalse hpoised =>
          have hb := betted_of_loop hc ho hfalse
          cases betting_engine hb hpoised with
          | last hk' hround' =>
              rw [hk] at hk'
              cases hk'
              exact absurd hround' hopen
          | runOut _ hk' hout =>
              rw [hk] at hk'
              cases hk'
              rw [hout.all] at hall
              cases hall
          | postFlop hpre => exact absurd hround hpre
          | @preflop c v _ hu _ hmem hv he =>
              cases he with
              | closes _ _ _ _ hk' _ _ hflop =>
                  rw [hk] at hk'
                  cases hk'
                  rw [hflop, hround] at hsame
                  cases hsame
              | @asks j hj hasks _ hk' hloop' =>
                  rw [hloop] at hloop'
                  cases hloop'
                  have hahead := ahead_turn hb.seated hb.labelled hg hround hu hmem hv
                  have hturning := hv.turning
                  have hframe := hturning.same.frame.trans (frame_switchRounds h)
                  have hsub : v.runningPlayerList.Sublist v.activePlayerList := by
                    have hsame' : SameTable h.refreshRunningPlayerList h.switchRounds := hu ▸ sameTable_noteRound _
                    exact ((hb.labelled.refresh.congr hsame'.labels).congr hturning.same.labels).sub
                  exact onTurn_asks (hb.seated.congr hframe) hsub hahead (by rwa [hturning.same.running]) hj hasks

end PokerTH.HandRun
