import PokerTH.RankingRun
import PokerTH.WholeHand

namespace PokerTH.RankedGame

open Relation

variable {maxPlayers : Nat} {owner : Nat → Ref} {playerDataList : List PlayerData} {s s' : RankedGame} {w : Ref}

theorem filter_range_of_le {n k : Nat} (hn : n ≤ k) : (List.range k).filter (fun i => n > i) = List.range n := by
  obtain ⟨d, rfl⟩ := Nat.exists_eq_add_of_le hn
  rw [List.range_add, List.filter_append, List.filter_eq_self.mpr, List.filter_eq_nil_iff.mpr, List.append_nil]
  · intro i hi
    obtain ⟨j, _, rfl⟩ := List.mem_map.mp hi
    simp
  · intro i hi
    simpa using hi

theorem sound_start (hstart : Started maxPlayers owner playerDataList s) : Sound owner (seats playerDataList) s := by
  obtain ⟨hroom, htwo, hnames, hcash, gameData, dbid, dealer, hcreated⟩ := hstart
  simp only [startGame, Game.create] at hcreated
  split_ifs at hcreated
  swap
  · cases hcreated
  cases hcreated
  have hactive : (List.range maxPlayers).filter (fun i => playerDataList.length > i) = seats playerDataList :=
    filter_range_of_le hroom
  have hplayer (r : Ref) (hr : r ∈ seats playerDataList) : ∃ d, playerDataList[r]? = some d ∧
      (Game.newPlayer gameData.startMoney playerDataList.length playerDataList r).myUniqueID = d.uniqueId := by
    have hlt : r < playerDataList.length := List.mem_range.mp hr
    refine ⟨playerDataList[r], List.getElem?_eq_getElem hlt, ?_⟩
    simp only [Game.newPlayer, List.getElem?_eq_getElem hlt]
    rfl
  refine ⟨⟨fun r hr => ?_, fun r hr => ?_, List.nodup_nil, by simp, by simp⟩, ?_⟩
  · obtain ⟨d, hd, hid⟩ := hplayer r hr
    rw [uniqueID, hid]
    exact hnames r d hd
  · obtain ⟨d, hd, hid⟩ := hplayer r hr
    have hany : playerDataList.any (fun q => q.uniqueId == d.uniqueId) = true :=
      List.any_eq_true.mpr ⟨d, List.mem_of_getElem? hd, by simp⟩
    simp only [uniqueID, hid, RankingMap.placeOf, initRankingMap, hany, if_true]
    rfl
  · have hseated (r : Ref) (hr : r ∈ (List.range maxPlayers).filter fun i => playerDataList.length > i) :
        r ∈ seats playerDataList := by
      rw [← hactive]
      exact hr
    have hall : ∀ r ∈ seats playerDataList, decide (¬ ((Game.newPlayer gameData.startMoney playerDataList.length
        playerDataList r).myCash < 1)) = true := by
      intro r hr
      have hpos := hcash r (List.mem_range.mp hr)
      simp only [decide_eq_true_eq]
      exact Int.not_lt.mpr hpos
    refine ⟨List.nodup_range, ?_, fun r hr => ?_, fun _ r hr => ?_, ?_, fun r hr => ?_, ⟨.nil, by simp, by simp⟩, ?_⟩
    · exact hactive ▸ List.nodup_range
    · exact hseated r hr
    · exact le_of_lt (hcash r (List.mem_range.mp (hseated r hr)))
    · rw [remaining, if_neg (by simp), playersWithCash, hactive, List.filter_eq_self.mpr hall]
      exact List.Perm.of_eq (List.append_nil _)
    · cases hr
    · exact fun _ hne => absurd rfl hne

/-- The ranking once a single player has chips: he is first, and the others follow in the reverse order in
which they went out. -/
structure FinalRanking (seated : List Ref) (s : RankedGame) (w : Ref) : Prop where
  winner : s.rank w = 1
  alone : ∀ r ∈ seated, s.rank r = 1 → r = w
  bounds : ∀ r ∈ seated, 1 ≤ s.rank r ∧ s.rank r ≤ seated.length
  eliminated : ∀ r ∈ seated, r ≠ w → ∃ hand ∈ s.eliminations, ∃ startCash, (r, startCash) ∈ hand
  ordered : Ordered s

theorem ranking_order (hstart : Started maxPlayers owner playerDataList s)
    (hrun : ReflTransGen (Step owner (seats playerDataList) (FreshId owner)) s s') (hover : s'.handRunning = false)
    (hone : playersWithCash s'.table = [w]) : FinalRanking (seats playerDataList) s' w := by
  have hr := (Runs.invariant (sound_start hstart) (fun _ _ hs hstep => sound_step hs hstep) hrun).ranks
  have hremaining : s'.remaining = [w] := by
    rw [remaining, hover]
    exact hone
  have hperm := hr.perm
  rw [hremaining] at hperm
  have hlen := hperm.length_eq
  rw [List.length_append, List.length_singleton, seats, List.length_range] at hlen
  have htwo := hstart.two
  have hsome : s'.eliminations ≠ [] := by
    intro hnil
    rw [out, hnil] at hlen
    simp at hlen
    omega
  have hwinner := hr.winner hover hsome w hremaining
  have hwho (r : Ref) (hmem : r ∈ seats playerDataList) : r = w ∨ r ∈ s'.out := by
    simpa using hperm.mem_iff.mpr hmem
  have hbounds (r : Ref) (hmem : r ∈ s'.out) := hr.bounds r hmem
  rw [hremaining, List.length_singleton] at hbounds
  refine ⟨hwinner, fun r hmem hfirst => ?_, fun r hmem => ?_, fun r hmem hne => ?_, hr.ordered⟩
  · rcases hwho r hmem with rfl | hout
    · rfl
    · have hb := (hbounds r hout).1
      simp only [Nat.cast_one] at hb
      omega
  · rcases hwho r hmem with rfl | hout
    · rw [hwinner, seats, List.length_range]
      omega
    · have hb := hbounds r hout
      simp only [Nat.cast_one] at hb
      omega
  · rcases hwho r hmem with rfl | hout
    · exact absurd rfl hne
    · exact mem_out.mp hout

theorem handPlayed_of_reachable {g g' : Game} {t : Table} {k h : Hand} {v : Nat → Nat} {elapsed : Int}
    (htotal : Hand.tableCash t < 2 ^ 31) (hready : HandRun.Ready maxPlayers t)
    (hdeal : g.initHand v elapsed t = .ok (g', k))
    (hrun : HandRun.Reachable maxPlayers ⟨k.skipFirstRunGui.start, .loop⟩ ⟨h, .handOver⟩) :
    HandPlayed k.toTable h.toTable := by
  have hc := HandRun.conserved_start ⟨hready, v, elapsed, g', k, hdeal, rfl⟩
  have hf : h.frame = k.frame := (HandRun.frame_reachable htotal hc hrun).trans (Hand.frame_start k)
  refine ⟨Hand.frame_activePlayerList hf, Hand.frame_myUniqueID hf, fun r => congrArg (fun h => (h.players r).myGuid) hf,
    Hand.frame_myRoundStartCash hf, fun r hmem => ?_⟩
  cases HandRun.conserved_reachable htotal ⟨hready, v, elapsed, g', k, hdeal, rfl⟩ hrun with
  | handOver hs hset => exact hset.cash_nonneg r (hs.mem_active.mp hmem).1

/-- The next hand as it is dealt, when the sessions for which `present` holds are in the game. -/
def dealNext (owner : Nat → Ref) (present : RejoinSession → Bool) (s : RankedGame) : RankedGame :=
  let u := initRejoiningPlayers owner present s
  match u.game.initHand (fun _ => 0) 0 u.table with
  | .ok (g, h) => { u with game := g, table := h.toTable, handRunning := true }
  | .error _ => u

theorem step_dealNext {allowed : RankedGame → RejoinSession → Prop} {seated : List Ref} (present : RejoinSession → Bool)
    (hover : s.handRunning = false) (hcash : 2 ≤ (playersWithCash s.table).length)
    (hdealt : (dealNext owner present s).handRunning = true) :
    Step owner seated allowed s (dealNext owner present s) := by
  have hnot : (initRejoiningPlayers owner present s).handRunning = false := by
    have hfold (l : List RejoinSession) (u : RankedGame) :
        (l.foldl (performRejoin owner) u).handRunning = u.handRunning := by
      induction l generalizing u with
      | nil => rfl
      | cons session l ih => exact (ih _).trans rfl
    exact (hfold _ _).trans hover
  simp only [dealNext] at hdealt ⊢
  split at hdealt
  · next g h hrun => exact .startNewHand hover hcash rfl hrun
  · rw [hnot] at hdealt
    cases hdealt

def paidOut (t : Table) (cash : Ref → Nat) : Table :=
  { t with players := fun r => { t.players r with myCash := cash r } }

theorem handPlayed_paidOut (t : Table) (cash : Ref → Nat) : HandPlayed t (paidOut t cash) :=
  ⟨rfl, fun _ => rfl, fun _ => rfl, fun _ => rfl, fun r _ => Int.natCast_nonneg (cash r)⟩

def twoNames : List PlayerData := [⟨1, .human, "a", -1⟩, ⟨2, .human, "b", -1⟩]

def ownerOfTwo (id : Nat) : Ref := (id - 1) % 2

def twoNamesGame : RankedGame where
  game := ⟨HandRun.twoPlayersGame.gameData, 2, 100, 5, 0, 1, 1, 0, []⟩
  table := ⟨Game.newPlayer 100 2 twoNames, [0, 1], [0, 1], [0, 1], Game.newBoard⟩
  rankingMap := initRankingMap twoNames id
  rejoinPlayers := []
  handRunning := false
  eliminations := []

theorem started_twoNames : Started 2 ownerOfTwo twoNames twoNamesGame := by
  refine ⟨by decide, by decide, ?_, by decide, HandRun.twoPlayersGame.gameData, id, 1, rfl⟩
  intro i d hd
  match i with
  | 0 =>
      cases hd
      rfl
  | 1 =>
      cases hd
      rfl
  | i + 2 => cases hd

def firstWins (s : RankedGame) : RankedGame :=
  endHand (fun _ => true) s (paidOut s.table fun r => if r = 0 then 200 else 0)

/-- The first player loses his connection during the first hand, comes back under the id 3 and wins all the chips in
the second. -/
theorem ranking_order_twoNames :
    ∃ s, Started 2 ownerOfTwo twoNames s ∧ ∃ s', ReflTransGen (Step ownerOfTwo (seats twoNames) (FreshId ownerOfTwo)) s s' ∧
      s'.uniqueID 0 = 3 ∧ FinalRanking (seats twoNames) s' 0 := by
  let session : RejoinSession := ⟨3, "c", "a"⟩
  let s₁ := dealNext ownerOfTwo (fun _ => true) twoNamesGame
  let back : RankedGame := { s₁ with rejoinPlayers := s₁.rejoinPlayers ++ [session] }
  let s₂ := endHand (fun id => id != 1) back (paidOut s₁.table fun _ => 100)
  let s₃ := dealNext ownerOfTwo (fun _ => true) s₂
  have h₁ : Step ownerOfTwo (seats twoNames) (FreshId ownerOfTwo) twoNamesGame s₁ :=
    step_dealNext _ rfl (by decide) (by decide +kernel)
  have hback : Step ownerOfTwo (seats twoNames) (FreshId ownerOfTwo) s₁ back :=
    .handleNewPlayer (by decide +kernel) (by decide +kernel) ⟨by decide +kernel, by decide +kernel⟩
  have h₂ : Step ownerOfTwo (seats twoNames) (FreshId ownerOfTwo) back s₂ :=
    .endHand _ (by decide +kernel) (handPlayed_paidOut _ _)
  have h₃ : Step ownerOfTwo (seats twoNames) (FreshId ownerOfTwo) s₂ s₃ :=
    step_dealNext _ rfl (by decide +kernel) (by decide +kernel)
  have h₄ : Step ownerOfTwo (seats twoNames) (FreshId ownerOfTwo) s₃ (firstWins s₃) :=
    .endHand _ (by decide +kernel) (handPlayed_paidOut _ _)
  have hrun := (((ReflTransGen.single h₁).tail hback).tail h₂ |>.tail h₃).tail h₄
  exact ⟨_, started_twoNames, _, hrun, by decide +kernel, ranking_order started_twoNames hrun rfl (by decide +kernel)⟩

/-- The same session rejoins twice during the first hand, which both players survive, and then its player
wins all the chips. -/
theorem rejoined_twice_unranked : ∃ s, Started 2 ownerOfTwo twoNames s ∧
    ∃ s', ReflTransGen (Step ownerOfTwo (seats twoNames) fun _ _ => True) s s' ∧ s'.handRunning = false ∧
      playersWithCash s'.table = [0] ∧ ¬ FinalRanking (seats twoNames) s' 0 := by
  let session : RejoinSession := ⟨3, "c", "a"⟩
  let rejoin (s : RankedGame) : RankedGame := { s with rejoinPlayers := s.rejoinPlayers ++ [session] }
  let s₁ := dealNext ownerOfTwo (fun _ => true) twoNamesGame
  let s₂ := endHand (fun id => id != 1) (rejoin (rejoin s₁)) (paidOut s₁.table fun _ => 100)
  let s₃ := dealNext ownerOfTwo (fun _ => true) s₂
  have h₁ : Step ownerOfTwo (seats twoNames) (fun _ _ => True) twoNamesGame s₁ :=
    step_dealNext _ rfl (by decide) (by decide +kernel)
  have hfirst : Step ownerOfTwo (seats twoNames) (fun _ _ => True) s₁ (rejoin s₁) :=
    .handleNewPlayer (by decide +kernel) (by decide +kernel) trivial
  have hsecond : Step ownerOfTwo (seats twoNames) (fun _ _ => True) (rejoin s₁) (rejoin (rejoin s₁)) :=
    .handleNewPlayer (by decide +kernel) (by decide +kernel) trivial
  have h₂ : Step ownerOfTwo (seats twoNames) (fun _ _ => True) (rejoin (rejoin s₁)) s₂ :=
    .endHand _ (by decide +kernel) (handPlayed_paidOut _ _)
  have h₃ : Step ownerOfTwo (seats twoNames) (fun _ _ => True) s₂ s₃ :=
    step_dealNext _ rfl (by decide +kernel) (by decide +kernel)
  have h₄ : Step ownerOfTwo (seats twoNames) (fun _ _ => True) s₃ (firstWins s₃) :=
    .endHand _ (by decide +kernel) (handPlayed_paidOut _ _)
  have hrun := ((((ReflTransGen.single h₁).tail hfirst).tail hsecond).tail h₂ |>.tail h₃).tail h₄
  refine ⟨_, started_twoNames, _, hrun, rfl, by decide +kernel, fun hfinal => ?_⟩
  have hunranked : (firstWins s₃).rank 0 ≠ 1 := by decide +kernel
  exact hunranked hfinal.winner

end PokerTH.RankedGame
