import PokerTH.HandStart
import PokerTH.RankingUpdate
import PokerTH.Runs

namespace PokerTH.RankedGame

open RankingMap Relation

variable {owner : Nat → Ref} {seated : List Ref} {s s' u : RankedGame} {t t' : Table} {r w : Ref}
  {session : RejoinSession} {waiting : List RejoinSession} {connected : Nat → Bool}

def rank (s : RankedGame) (r : Ref) : Int := (s.rankingMap.placeOf (s.uniqueID r)).getD 0

structure Ids (owner : Nat → Ref) (seated : List Ref) (waiting : List RejoinSession) (s : RankedGame) : Prop where
  owned : ∀ r ∈ seated, owner (s.uniqueID r) = r
  known : ∀ r ∈ seated, (s.rankingMap.placeOf (s.uniqueID r)).isSome
  distinct : (waiting.map fun session => session.uniqueId).Nodup
  seats : ∀ session ∈ waiting, owner session.uniqueId ∈ seated
  fresh : ∀ session ∈ waiting, session.uniqueId ≠ s.uniqueID (owner session.uniqueId)

theorem Ids.id_ne (hi : Ids owner seated waiting s) (hr : r ∈ seated) (hw : w ∈ seated) (hne : r ≠ w) :
    s.uniqueID r ≠ s.uniqueID w := by
  intro hid
  rw [← hi.owned r hr, hid, hi.owned w hw] at hne
  exact hne rfl

theorem performRejoin_uniqueID (r : Ref) : (performRejoin owner s session).uniqueID r =
    if r = owner session.uniqueId then session.uniqueId else s.uniqueID r := by
  simp only [performRejoin, uniqueID, updatePlayer]
  by_cases hr : r = owner session.uniqueId
  · subst hr
    rw [if_pos rfl, Function.update_self]
  · rw [if_neg hr, Function.update_of_ne hr]

theorem performRejoin_place (hi : Ids owner seated (session :: waiting) s) (hr : r ∈ seated) :
    (performRejoin owner s session).rankingMap.placeOf ((performRejoin owner s session).uniqueID r) =
      s.rankingMap.placeOf (s.uniqueID r) := by
  have hseat := hi.seats session List.mem_cons_self
  have hfresh := hi.fresh session List.mem_cons_self
  rw [performRejoin_uniqueID]
  split_ifs with hown
  · subst hown
    exact placeOf_replaceRankingPlayer hfresh.symm (hi.known _ hseat)
  · refine placeOf_replaceRankingPlayer_of_ne (hi.id_ne hr hseat hown) fun hid => hown ?_
    rw [← hid, hi.owned r hr]

theorem Ids.performRejoin (hi : Ids owner seated (session :: waiting) s) :
    Ids owner seated waiting (performRejoin owner s session) := by
  have hdistinct := List.nodup_cons.mp hi.distinct
  refine ⟨fun r hr => ?_, fun r hr => ?_, hdistinct.2, fun w hw => hi.seats w (List.mem_cons_of_mem _ hw), ?_⟩
  · rw [performRejoin_uniqueID]
    split_ifs with hown
    · exact hown.symm
    · exact hi.owned r hr
  · rw [performRejoin_place hi hr]
    exact hi.known r hr
  · intro w hw
    rw [performRejoin_uniqueID]
    split_ifs
    · exact fun hid => hdistinct.1 (List.mem_map.mpr ⟨w, hw, hid⟩)
    · exact hi.fresh w (List.mem_cons_of_mem _ hw)

structure Rejoined (seated : List Ref) (s u : RankedGame) : Prop where
  active : u.table.activePlayerList = s.table.activePlayerList
  cash : ∀ r, (u.table.players r).myCash = (s.table.players r).myCash
  rank : ∀ r ∈ seated, u.rank r = s.rank r
  eliminations : u.eliminations = s.eliminations
  rejoinPlayers : u.rejoinPlayers = s.rejoinPlayers

theorem rejoined_performRejoin (hi : Ids owner seated (session :: waiting) s) :
    Rejoined seated s (performRejoin owner s session) := by
  refine ⟨rfl, fun r => ?_, fun r hr => ?_, rfl, rfl⟩
  · simp only [performRejoin, updatePlayer]
    by_cases hr : r = owner session.uniqueId
    · subst hr
      rw [Function.update_self]
    · rw [Function.update_of_ne hr]
  · rw [RankedGame.rank, RankedGame.rank, performRejoin_place hi hr]

theorem Rejoined.trans (h : Rejoined seated s u) (h' : Rejoined seated u s') : Rejoined seated s s' :=
  ⟨h'.active.trans h.active, fun r => (h'.cash r).trans (h.cash r), fun r hr => (h'.rank r hr).trans (h.rank r hr),
    h'.eliminations.trans h.eliminations, h'.rejoinPlayers.trans h.rejoinPlayers⟩

theorem foldl_performRejoin (hi : Ids owner seated waiting s) :
    Ids owner seated [] (waiting.foldl (performRejoin owner) s) ∧
      Rejoined seated s (waiting.foldl (performRejoin owner) s) := by
  induction waiting generalizing s with
  | nil => exact ⟨hi, rfl, fun _ => rfl, fun _ _ => rfl, rfl, rfl⟩
  | cons session waiting ih =>
      obtain ⟨hids, hkept⟩ := ih hi.performRejoin
      exact ⟨hids, (rejoined_performRejoin hi).trans hkept⟩

theorem initRejoiningPlayers_spec (present : RejoinSession → Bool) (hi : Ids owner seated s.rejoinPlayers s) :
    Ids owner seated [] (initRejoiningPlayers owner present s) ∧
      Rejoined seated { s with rejoinPlayers := [] } (initRejoiningPlayers owner present s) := by
  apply foldl_performRejoin
  have hsub : (s.rejoinPlayers.filter present).Sublist s.rejoinPlayers := List.filter_sublist
  exact ⟨hi.owned, hi.known, hi.distinct.sublist (hsub.map _), fun w hw => hi.seats w (hsub.subset hw),
    fun w hw => hi.fresh w (hsub.subset hw)⟩

theorem updateAll_field {β : Type} {players : Players} {l : List Ref} {f : Player → Player} (field : Player → β)
    (hf : ∀ p, field (f p) = field p) (r : Ref) : field (updateAll players l f r) = field (players r) := by
  simp only [updateAll]
  split_ifs
  · exact hf _
  · rfl

theorem postBlind_myUniqueID (b : Button) (amount : Int) (p : Player) :
    (Hand.postBlind b amount p).myUniqueID = p.myUniqueID := by
  simp only [Hand.postBlind]
  split_ifs <;> rfl

theorem initHand_field {β : Type} (field : Player → β) {g g' : Game} {h : Hand} {v : Nat → Nat} {elapsed : Int}
    (hbutton : ∀ p b, field (p.setMyButton b) = field p) (hblind : ∀ b amount p, field (Hand.postBlind b amount p) = field p)
    (hdeal : ∀ p value cash, field { p with myCardsValueInt := value, myRoundStartCash := cash } = field p)
    (hclear : ∀ p, field (p.setMyAction .none) = field p) (hbroke : ∀ p, field { p with myActiveStatus := false } = field p)
    (hrun : g.initHand v elapsed t = .ok (g', h)) (r : Ref) : field (h.players r) = field (t.players r) := by
  obtain ⟨_, _, rfl, hcreate, _⟩ := Hand.initHand_cases hrun
  obtain ⟨k, hk, hh, _⟩ := Hand.create_cases hcreate
  have hb := (Hand.assignButtons_spec hk).1
  have hbuttons : field (k.players r) = field (Hand.dealCards v (Game.clearTable t) r) := by
    rw [← hbutton _ .none, hb.players r, hbutton]
    rfl
  have hdealt : field (Hand.dealCards v (Game.clearTable t) r) = field ((Game.clearTable t).players r) := by
    simp only [Hand.dealCards]
    split_ifs
    · exact hdeal _ _ _
    · rfl
  have hcleared : field ((Game.clearTable t).players r) = field (t.players r) :=
    (updateAll_field field hbroke r).trans (updateAll_field field hclear r)
  have hblinds : field (k.setBlinds.players r) = field (k.players r) :=
    (updateAll_field field (hblind _ _) r).trans (updateAll_field field (hblind _ _) r)
  rw [hh]
  exact hblinds.trans (hbuttons.trans (hdealt.trans hcleared))

theorem initHand_table {g g' : Game} {h : Hand} {v : Nat → Nat} {elapsed : Int}
    (hrun : g.initHand v elapsed t = .ok (g', h)) :
    h.activePlayerList = (t.activePlayerList.filter fun r => (t.players r).myCash != 0) ∧
      ∀ r, (h.players r).myUniqueID = (t.players r).myUniqueID := by
  refine ⟨(Hand.initHand_lists hrun).1.trans (Hand.clearTable_activePlayerList t), fun r => ?_⟩
  exact initHand_field (fun p => p.myUniqueID) (fun _ _ => rfl) postBlind_myUniqueID (fun _ _ _ => rfl) (fun _ => rfl)
    (fun _ => rfl) hrun r

def remaining (s : RankedGame) : List Ref :=
  if s.handRunning then s.table.activePlayerList else playersWithCash s.table

def out (s : RankedGame) : List Ref := s.eliminations.flatten.map Prod.fst

structure Ordered (s : RankedGame) : Prop where
  hands : s.eliminations.Pairwise fun earlier later => ∀ a ∈ earlier, ∀ b ∈ later, s.rank b.1 < s.rank a.1
  byStack : ∀ hand ∈ s.eliminations, ∀ a ∈ hand, ∀ b ∈ hand, a.2 < b.2 → s.rank b.1 < s.rank a.1
  ties : ∀ hand ∈ s.eliminations, ∀ a ∈ hand, ∀ b ∈ hand, a.2 = b.2 → s.rank a.1 = s.rank b.1

structure Ranks (seated : List Ref) (s : RankedGame) : Prop where
  nodup : seated.Nodup
  active : s.table.activePlayerList.Nodup
  seats : ∀ r ∈ s.table.activePlayerList, r ∈ seated
  cash : s.handRunning = false → ∀ r ∈ s.table.activePlayerList, 0 ≤ (s.table.players r).myCash
  perm : (s.remaining ++ s.out).Perm seated
  bounds : ∀ r ∈ s.out, (s.remaining.length : Int) < s.rank r ∧ s.rank r ≤ seated.length
  ordered : Ordered s
  winner : s.handRunning = false → s.eliminations ≠ [] → ∀ w, s.remaining = [w] → s.rank w = 1

theorem mem_out {r : Ref} : r ∈ s.out ↔ ∃ hand ∈ s.eliminations, ∃ c, (r, c) ∈ hand := by
  simp only [out, List.mem_map, List.mem_flatten]
  constructor
  · rintro ⟨a, ⟨hand, hhand, ha⟩, rfl⟩
    exact ⟨hand, hhand, a.2, ha⟩
  · rintro ⟨hand, hhand, c, hc⟩
    exact ⟨(r, c), ⟨hand, hhand, hc⟩, rfl⟩

theorem Ordered.congr (ho : Ordered s) (hsame : u.eliminations = s.eliminations)
    (hrank : ∀ r ∈ s.out, u.rank r = s.rank r) : Ordered u := by
  have hr (hand : List (Ref × Int)) (hhand : hand ∈ s.eliminations) (a : Ref × Int) (ha : a ∈ hand) :
      u.rank a.1 = s.rank a.1 := hrank a.1 (mem_out.mpr ⟨hand, hhand, a.2, ha⟩)
  refine ⟨?_, ?_, ?_⟩
  · rw [hsame]
    refine ho.hands.imp_of_mem fun he hl h a ha b hb => ?_
    rw [hr _ he a ha, hr _ hl b hb]
    exact h a ha b hb
  · rw [hsame]
    intro hand hhand a ha b hb hlt
    rw [hr _ hhand a ha, hr _ hhand b hb]
    exact ho.byStack hand hhand a ha b hb hlt
  · rw [hsame]
    intro hand hhand a ha b hb heq
    rw [hr _ hhand a ha, hr _ hhand b hb]
    exact ho.ties hand hhand a ha b hb heq

theorem Ranks.out_seated (hr : Ranks seated s) (hout : r ∈ s.out) : r ∈ seated :=
  hr.perm.mem_iff.mp (List.mem_append_right _ hout)

theorem Ranks.deal (hr : Ranks seated s) (hover : s.handRunning = false)
    (hactive : u.table.activePlayerList = s.remaining) (hrunning : u.handRunning = true)
    (hsame : u.eliminations = s.eliminations) (hrank : ∀ r ∈ seated, u.rank r = s.rank r) : Ranks seated u := by
  have hremaining : u.remaining = s.remaining := by rw [remaining, if_pos hrunning, hactive]
  have hout : u.out = s.out := by rw [out, hsame, out]
  have hsub : s.remaining.Sublist s.table.activePlayerList := by
    rw [remaining, hover]
    exact List.filter_sublist
  refine ⟨hr.nodup, ?_, fun r hmem => ?_, fun hfalse => ?_, ?_, fun r hmem => ?_, ?_, fun hfalse => ?_⟩
  · rw [hactive]
    exact hr.active.sublist hsub
  · rw [hactive] at hmem
    exact hr.seats r (hsub.subset hmem)
  · rw [hrunning] at hfalse
    cases hfalse
  · rw [hremaining, hout]
    exact hr.perm
  · rw [hout] at hmem
    rw [hremaining, hrank r (hr.out_seated hmem)]
    exact hr.bounds r hmem
  · exact hr.ordered.congr hsame fun r hmem => hrank r (hr.out_seated hmem)
  · rw [hrunning] at hfalse
    cases hfalse

theorem removeDisconnectedPlayers_field {β : Type} (field : Player → β)
    (hf : ∀ (p : Player) (c : Int) (g : String) (b : Bool),
      field { p with myCash := c, myGuid := g, isSessionActive := b } = field p) (r : Ref) :
    field ((removeDisconnectedPlayers connected t).players r) = field (t.players r) := by
  simp only [removeDisconnectedPlayers, updateAll]
  split_ifs
  · rfl
  · exact hf _ 0 "" false
  · exact hf (t.players r) (t.players r).myCash (t.players r).myGuid false
  · rfl

theorem removeDisconnectedPlayers_cash (hcash : 0 ≤ (t.players r).myCash) :
    0 ≤ ((removeDisconnectedPlayers connected t).players r).myCash := by
  simp only [removeDisconnectedPlayers, updateAll]
  split_ifs
  · exact hcash
  · exact le_refl 0
  · exact hcash
  · exact hcash

theorem mem_removed {a : Ref × Int} :
    a ∈ removed t ↔ a.1 ∈ brokeList t ∧ a.2 = (t.players a.1).myRoundStartCash := by
  simp only [removed, List.mem_map]
  constructor
  · rintro ⟨r, hr, rfl⟩
    exact ⟨hr, rfl⟩
  · rintro ⟨hr, hstart⟩
    exact ⟨a.1, hr, by rw [← hstart]⟩

theorem removed_map_fst (t : Table) : (removed t).map Prod.fst = brokeList t := by
  rw [removed, List.map_map]
  exact List.map_id _

theorem active_perm (t : Table) : (playersWithCash t ++ brokeList t).Perm t.activePlayerList := by
  have hbroke : brokeList t = t.activePlayerList.filter fun r => !decide (¬ (t.players r).myCash < 1) :=
    List.filter_congr fun r _ => by rw [decide_not, Bool.not_not]
  rw [hbroke]
  exact List.filter_append_perm _ _

theorem length_active (t : Table) :
    t.activePlayerList.length = (playersWithCash t).length + (brokeList t).length := by
  rw [← (active_perm t).length_eq, List.length_append]

structure Ended (seated : List Ref) (s : RankedGame) (t : Table) : Prop where
  active : t.activePlayerList = s.table.activePlayerList
  id : ∀ r, (t.players r).myUniqueID = s.uniqueID r
  cash : ∀ r ∈ t.activePlayerList, 0 ≤ (t.players r).myCash
  mapped : Mapped t s.rankingMap

theorem ended_of_played (connected : Nat → Bool) (hi : Ids owner seated waiting s) (hr : Ranks seated s)
    (hp : HandPlayed s.table t) :
    Ended seated s (removeDisconnectedPlayers connected t) := by
  have hid (r : Ref) : ((removeDisconnectedPlayers connected t).players r).myUniqueID = s.uniqueID r :=
    (removeDisconnectedPlayers_field (fun p => p.myUniqueID) (fun _ _ _ _ => rfl) r).trans (hp.id r)
  have hactive : (removeDisconnectedPlayers connected t).activePlayerList = s.table.activePlayerList := hp.active
  refine ⟨hactive, hid, fun r hmem => removeDisconnectedPlayers_cash (hp.cash r hmem), ?_, fun r hmem => ?_⟩
  · simp only [hid, hactive]
    refine hr.active.map_on fun r hrmem w hwmem heq => ?_
    rw [← hi.owned r (hr.seats r hrmem), heq, hi.owned w (hr.seats w hwmem)]
  · rw [hid]
    rw [hactive] at hmem
    exact hi.known r (hr.seats r hmem)

section EndOfHand

variable (hi : Ids owner seated waiting s) (hr : Ranks seated s) (hrunning : s.handRunning = true)
  (he : Ended seated s t)
  (hu : u = { s with table := t, rankingMap := updateRankingMap t s.rankingMap, handRunning := false,
                     eliminations := s.eliminations ++ [removed t] })

include he hu

theorem rank_broke (hmem : r ∈ brokeList t) : u.rank r = (playersWithCash t).length +
    (brokeList t).countP fun q => (t.players r).myRoundStartCash ≤ (t.players q).myRoundStartCash := by
  rw [hu, rank, uniqueID, updateRankingMap_removed he.mapped hmem]
  rfl

theorem rank_winner (hone : playersWithCash t = [w]) : u.rank w = 1 := by
  rw [hu, rank, uniqueID, updateRankingMap_staying he.mapped (by simp [hone]), if_pos (by simp [hone])]
  rfl

include hrunning in
/-- Who goes out in this hand is ranked behind the players left and before everybody out already. -/
theorem rank_broke_bounds (hmem : r ∈ brokeList t) :
    ((playersWithCash t).length : Int) < u.rank r ∧ u.rank r ≤ s.remaining.length := by
  have hself : 0 < (brokeList t).countP fun q => (t.players r).myRoundStartCash ≤ (t.players q).myRoundStartCash :=
    List.countP_pos_iff.mpr ⟨r, hmem, by simp⟩
  have hle := List.countP_le_length
    (p := fun q => decide ((t.players r).myRoundStartCash ≤ (t.players q).myRoundStartCash)) (l := brokeList t)
  have hlen := length_active t
  rw [rank_broke he hu hmem, remaining, if_pos hrunning, ← he.active]
  omega

include hi hr hrunning

theorem rank_out (hmem : r ∈ s.out) : u.rank r = s.rank r := by
  have hnodup := (hr.perm.nodup_iff).mpr hr.nodup
  have hnot : r ∉ t.activePlayerList := fun hactive => by
    rw [he.active] at hactive
    refine List.disjoint_of_nodup_append hnodup ?_ hmem
    rwa [remaining, if_pos hrunning]
  rw [hu, rank, uniqueID, updateRankingMap_of_not_mem]
  · rw [he.id, rank]
  · intro q hq
    rw [he.id, he.id]
    refine hi.id_ne (hr.seats q (he.active ▸ hq)) (hr.out_seated hmem) ?_
    rintro rfl
    exact hnot hq

theorem ordered_endHand : Ordered u := by
  have helim : u.eliminations = s.eliminations ++ [removed t] := by rw [hu]
  have hold : ∀ r ∈ s.out, u.rank r = s.rank r := fun r hmem => rank_out hi hr hrunning he hu hmem
  have hbefore := hr.ordered.congr (u := { u with eliminations := s.eliminations }) rfl hold
  refine ⟨?_, ?_, ?_⟩
  · rw [helim]
    refine List.pairwise_append.mpr ⟨hbefore.hands, List.pairwise_singleton _ _, fun earlier hearlier later hlater => ?_⟩
    rw [List.mem_singleton] at hlater
    subst hlater
    intro a ha b hb
    have hout : a.1 ∈ s.out := mem_out.mpr ⟨earlier, hearlier, a.2, ha⟩
    calc u.rank b.1 ≤ s.remaining.length := (rank_broke_bounds hrunning he hu (mem_removed.mp hb).1).2
      _ < s.rank a.1 := (hr.bounds a.1 hout).1
      _ = u.rank a.1 := (hold a.1 hout).symm
  · rw [helim]
    intro hand hhand a ha b hb hlt
    rcases List.mem_append.mp hhand with hhand | hhand
    · exact hbefore.byStack hand hhand a ha b hb hlt
    · rw [List.mem_singleton] at hhand
      subst hhand
      obtain ⟨hamem, hastart⟩ := mem_removed.mp ha
      obtain ⟨hbmem, hbstart⟩ := mem_removed.mp hb
      have hmore := Lists.countP_lt (l := brokeList t) (p := fun q => decide (b.2 ≤ (t.players q).myRoundStartCash))
        (q := fun q => decide (a.2 ≤ (t.players q).myRoundStartCash))
        (fun q _ hq => by simp only [decide_eq_true_eq] at hq ⊢; omega) hamem (by simp [hastart])
        (by simp only [decide_eq_false_iff_not, ← hastart]; omega)
      rw [rank_broke he hu hamem, rank_broke he hu hbmem, ← hastart, ← hbstart]
      omega
  · rw [helim]
    intro hand hhand a ha b hb heq
    rcases List.mem_append.mp hhand with hhand | hhand
    · exact hbefore.ties hand hhand a ha b hb heq
    · rw [List.mem_singleton] at hhand
      subst hhand
      obtain ⟨hamem, hastart⟩ := mem_removed.mp ha
      obtain ⟨hbmem, hbstart⟩ := mem_removed.mp hb
      rw [rank_broke he hu hamem, rank_broke he hu hbmem, ← hastart, ← hbstart, heq]

theorem ranks_endHand : Ranks seated u := by
  have helim : u.eliminations = s.eliminations ++ [removed t] := by rw [hu]
  have hremaining : u.remaining = playersWithCash t := by
    rw [hu]
    rfl
  have hout : u.out = s.out ++ brokeList t := by
    rw [out, helim, List.flatten_concat, List.map_append, removed_map_fst]
    rfl
  have hactive : s.remaining = t.activePlayerList := by rw [remaining, if_pos hrunning, he.active]
  have hutable : u.table = t := by rw [hu]
  refine ⟨hr.nodup, ?_, ?_, ?_, ?_, ?_, ordered_endHand hi hr hrunning he hu, fun _ _ w hone => ?_⟩
  · rw [hutable, he.active]
    exact hr.active
  · rw [hutable, he.active]
    exact hr.seats
  · rw [hutable]
    exact fun _ => he.cash
  · have hold := hr.perm
    rw [hactive] at hold
    rw [hremaining, hout]
    refine List.Perm.trans ?_ (((active_perm t).append_right s.out).trans hold)
    rw [List.append_assoc]
    exact (List.perm_append_comm).append_left _
  · intro r hmem
    rw [hremaining]
    rw [hout, List.mem_append] at hmem
    have hlen := length_active t
    rw [← hactive] at hlen
    rcases hmem with hmem | hmem
    · have hbounds := hr.bounds r hmem
      rw [rank_out hi hr hrunning he hu hmem]
      omega
    · have hbounds := rank_broke_bounds hrunning he hu hmem
      have hall := hr.perm.length_eq
      rw [List.length_append] at hall
      omega
  · rw [hremaining] at hone
    exact rank_winner he hu hone

omit hrunning in
theorem ids_endHand : Ids owner seated waiting u := by
  have hid (r : Ref) : u.uniqueID r = s.uniqueID r := by
    rw [hu]
    exact he.id r
  refine ⟨fun r hmem => ?_, fun r hmem => ?_, hi.distinct, hi.seats, fun session hmem => ?_⟩
  · rw [hid]
    exact hi.owned r hmem
  · have hkey : u.uniqueID r = (t.players r).myUniqueID := by rw [hu, uniqueID]
    have hmap : u.rankingMap = updateRankingMap t s.rankingMap := by rw [hu]
    rw [hkey, hmap]
    by_cases hactive : r ∈ t.activePlayerList
    · rcases List.mem_append.mp ((active_perm t).mem_iff.mpr hactive) with hstay | hbroke
      · rw [updateRankingMap_staying he.mapped hstay]
        split_ifs
        · rfl
        · exact he.mapped.known r hactive
      · rw [updateRankingMap_removed he.mapped hbroke]
        rfl
    · rw [updateRankingMap_of_not_mem, he.id]
      · exact hi.known r hmem
      · intro q hq
        rw [he.id, he.id]
        refine hi.id_ne (hr.seats q (he.active ▸ hq)) hmem ?_
        rintro rfl
        exact hactive hq
  · rw [hid]
    exact hi.fresh session hmem

end EndOfHand

/-- The id of a session that rejoins is neither the id of its seat nor waiting already. -/
def FreshId (owner : Nat → Ref) (s : RankedGame) (session : RejoinSession) : Prop :=
  session.uniqueId ≠ s.uniqueID (owner session.uniqueId) ∧
    session.uniqueId ∉ s.rejoinPlayers.map fun session => session.uniqueId

/-- What every run keeps whose rejoining sessions have fresh ids. -/
structure Sound (owner : Nat → Ref) (seated : List Ref) (s : RankedGame) : Prop where
  ids : Ids owner seated s.rejoinPlayers s
  ranks : Ranks seated s

theorem sound_step (hs : Sound owner seated s) (hstep : Step owner seated (FreshId owner) s s') :
    Sound owner seated s' := by
  obtain ⟨hi, hr⟩ := hs
  cases hstep with
  | @handleNewPlayer session hseat hguid hallowed =>
      obtain ⟨hnew, hwaiting⟩ := hallowed
      refine ⟨⟨hi.owned, hi.known, ?_, ?_, ?_⟩, ?_⟩
      · rw [List.map_append, List.nodup_append]
        refine ⟨hi.distinct, by simp, ?_⟩
        rintro id hid _ hmem rfl
        have heq := List.mem_singleton.mp hmem
        rw [heq] at hid
        exact hwaiting hid
      · intro w hw
        rcases List.mem_append.mp hw with hw | hw
        · exact hi.seats w hw
        · rwa [List.mem_singleton.mp hw]
      · intro w hw
        rcases List.mem_append.mp hw with hw | hw
        · exact hi.fresh w hw
        · rwa [List.mem_singleton.mp hw]
      · exact ⟨hr.nodup, hr.active, hr.seats, hr.cash, hr.perm, hr.bounds,
          ⟨hr.ordered.hands, hr.ordered.byStack, hr.ordered.ties⟩, hr.winner⟩
  | @startNewHand u g h present v elapsed hover hcash hrejoin hdeal =>
      subst hrejoin
      obtain ⟨hids, hkept⟩ := initRejoiningPlayers_spec present hi
      obtain ⟨hactive, hid⟩ := initHand_table hdeal
      have hwaiting : (initRejoiningPlayers owner present s).rejoinPlayers = [] := hkept.rejoinPlayers
      constructor
      · change Ids owner seated (initRejoiningPlayers owner present s).rejoinPlayers _
        rw [hwaiting]
        refine ⟨fun r hmem => ?_, fun r hmem => ?_, hids.distinct, hids.seats, fun w hw => by cases hw⟩
        · exact (congrArg owner (hid r)).trans (hids.owned r hmem)
        · simp only [uniqueID, hid]
          exact hids.known r hmem
      · refine hr.deal hover ?_ rfl hkept.eliminations fun r hmem => ?_
        · rw [remaining, hover]
          refine hactive.trans ?_
          rw [hkept.active]
          refine List.filter_congr fun r hmem => ?_
          have hnonneg := hr.cash hover r hmem
          rw [hkept.cash]
          refine Bool.eq_iff_iff.mpr ?_
          simp only [bne_iff_ne, decide_eq_true_eq]
          omega
        · refine Eq.trans ?_ (hkept.rank r hmem)
          simp only [rank, uniqueID, hid]
  | @endHand t connected hrunning hplayed =>
      have he := ended_of_played connected hi hr hplayed
      exact ⟨ids_endHand hi hr he rfl, ranks_endHand hi hr hrunning he rfl⟩

end PokerTH.RankedGame
