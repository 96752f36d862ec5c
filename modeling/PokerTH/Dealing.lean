import PokerTH.Beaten
import PokerTH.CardsStrength
import PokerTH.WholeHand

namespace PokerTH.Hand

open CardsValue

section

variable (cardsArray : List Nat)

def tempBoardArray : List Nat := (List.range 5).map fun i => cardsArray.getD i 0

def tempPlayerArray (k : Nat) : List Nat := (List.range 2).map fun j => cardsArray.getD (2 * k + j + 5) 0

def tempPlayerAndBoardArray (k : Nat) : List Nat := tempPlayerArray cardsArray k ++ tempBoardArray cardsArray

structure PlayerCards where
  myCards : List Nat
  myCardsValueInt : Nat
  myBestHandPosition : List Nat
  deriving DecidableEq, Repr

def playerCards (k : Nat) : PlayerCards :=
  let evaluation := cardsValue (tempPlayerAndBoardArray cardsArray k)
  ⟨tempPlayerArray cardsArray k, evaluation.value, evaluation.position⟩

def dealPlayer (k : Nat) : Except EngineError PlayerCards :=
  if 2 * k + 1 + 5 ≥ 52 then .error .seatNotFound else .ok (playerCards cardsArray k)

def dealPlayers (n : Nat) : Except EngineError (List PlayerCards) := (List.range n).mapM (dealPlayer cardsArray)

/-- The constructor of a hand, with the array as `Tools::ShuffleArrayNonDeterministic` leaves it. -/
def createShuffled (t : Table) (dealerPosition : Nat) (smallBlind : Int) : Except EngineError Hand := do
  let dealt ← dealPlayers cardsArray t.activePlayerList.length
  create (fun k => (dealt.map PlayerCards.myCardsValueInt).getD k 0) t dealerPosition smallBlind

end

variable {cardsArray : List Nat} {n k dealerPosition : Nat} {t : Table} {smallBlind : Int} {v v' : Nat → Nat}

theorem mapM_ok {f : Nat → Except EngineError PlayerCards} {g : Nat → PlayerCards} {l : List Nat}
    (h : ∀ k ∈ l, f k = .ok (g k)) : l.mapM f = .ok (l.map g) := by
  induction l with
  | nil => rfl
  | cons k l ih =>
      rw [List.mapM_cons, h k (List.mem_cons_self ..), ih fun k hk => h k (List.mem_cons_of_mem _ hk)]
      rfl

theorem mapM_error {f : Nat → Except EngineError PlayerCards} {g : Nat → PlayerCards} {l : List Nat} {e : EngineError}
    (h : ∀ k ∈ l, f k = .ok (g k) ∨ f k = .error e) (hk : ∃ k ∈ l, f k = .error e) : l.mapM f = .error e := by
  induction l with
  | nil => simp at hk
  | cons k l ih =>
      rw [List.mapM_cons]
      rcases h k (List.mem_cons_self ..) with hok | herror
      · obtain ⟨i, hi, herror⟩ := hk
        rcases List.mem_cons.mp hi with rfl | hi
        · rw [hok] at herror
          cases herror
        · rw [hok, ih (fun k hk => h k (List.mem_cons_of_mem _ hk)) ⟨i, hi, herror⟩]
          rfl
      · rw [herror]
        rfl

theorem dealPlayers_eq : dealPlayers cardsArray n =
    if n > 23 then .error .seatNotFound else .ok ((List.range n).map (playerCards cardsArray)) := by
  split_ifs with hn
  · refine mapM_error (g := playerCards cardsArray) (fun k _ => ?_) ⟨23, List.mem_range.mpr hn, rfl⟩
    rw [dealPlayer]
    split_ifs
    · exact .inr rfl
    · exact .inl rfl
  · refine mapM_ok fun k hk => ?_
    have hlt := List.mem_range.mp hk
    rw [dealPlayer, if_neg (by omega)]

theorem create_congr (h : ∀ k < t.activePlayerList.length, v k = v' k) :
    create v t dealerPosition smallBlind = create v' t dealerPosition smallBlind := by
  have hcards : dealCards v t = dealCards v' t := by
    funext r
    simp only [dealCards]
    split_ifs with hr
    · rw [h _ (List.idxOf_lt_length_of_mem hr)]
    · rfl
  simp only [create, hcards]

def dealtValue (cardsArray : List Nat) (k : Nat) : Nat := (cardsValue (tempPlayerAndBoardArray cardsArray k)).value

theorem createShuffled_eq : createShuffled cardsArray t dealerPosition smallBlind =
    create (dealtValue cardsArray) t dealerPosition smallBlind := by
  rw [createShuffled, dealPlayers_eq]
  split_ifs with hn
  · simp only [create, if_pos hn]
    rfl
  · refine create_congr fun k hk => ?_
    rw [List.map_map, List.getD_eq_getElem?_getD, List.getElem?_map, List.getElem?_range hk]
    rfl

/-- The cards are dealt from the array one after the other, the board first. -/
theorem dealt_range (cardsArray : List Nat) (n : Nat) : tempBoardArray cardsArray ++
    (List.range n).flatMap (tempPlayerArray cardsArray) =
      (List.range (5 + 2 * n)).map fun i => cardsArray.getD i 0 := by
  induction n with
  | zero => simp [tempBoardArray]
  | succ n ih =>
      have hrange : List.range (5 + 2 * (n + 1)) = List.range (5 + 2 * n) ++ [5 + 2 * n, 5 + 2 * n + 1] := by
        rw [show 5 + 2 * (n + 1) = 5 + 2 * n + 1 + 1 by omega, List.range_succ, List.range_succ]
        simp
      rw [List.range_succ, List.flatMap_append, ← List.append_assoc, ih, hrange, List.map_append]
      have hfirst : 2 * n + 0 + 5 = 5 + 2 * n := by omega
      have hsecond : 2 * n + 1 + 5 = 5 + 2 * n + 1 := by omega
      simp [tempPlayerArray, List.range_succ, hsecond, hfirst]

theorem dealt_nodup (hdeck : cardsArray.Perm (List.range 52)) (hn : n ≤ 23) :
    (tempBoardArray cardsArray ++ (List.range n).flatMap (tempPlayerArray cardsArray)).Nodup ∧
      ∀ card ∈ tempBoardArray cardsArray ++ (List.range n).flatMap (tempPlayerArray cardsArray), card < 52 := by
  have hlength : cardsArray.length = 52 := by rw [hdeck.length_eq, List.length_range]
  have htake : (List.range (5 + 2 * n)).map (fun i => cardsArray.getD i 0) = cardsArray.take (5 + 2 * n) := by
    apply List.ext_getElem
    · simp [hlength]
      omega
    · intro i hi _
      have hlt : i < cardsArray.length := by
        rw [List.length_map, List.length_range] at hi
        omega
      simp [hlt]
  rw [dealt_range, htake]
  refine ⟨(hdeck.nodup_iff.mpr List.nodup_range).sublist (List.take_sublist _ _), fun card hcard => ?_⟩
  exact List.mem_range.mp (hdeck.mem_iff.mp (List.mem_of_mem_take hcard))

theorem sevenCards_dealt (hdeck : cardsArray.Perm (List.range 52)) (hk : k < 23) :
    SevenCards (tempPlayerAndBoardArray cardsArray k) := by
  obtain ⟨hnodup, hlt⟩ := dealt_nodup hdeck (le_refl 23)
  have hsub : (tempBoardArray cardsArray ++ tempPlayerArray cardsArray k).Sublist
      (tempBoardArray cardsArray ++ (List.range 23).flatMap (tempPlayerArray cardsArray)) := by
    refine List.Sublist.append (.refl _) ?_
    exact List.sublist_flatten_of_mem (List.mem_map_of_mem (List.mem_range.mpr hk))
  have hperm : (tempPlayerAndBoardArray cardsArray k).Perm
      (tempBoardArray cardsArray ++ tempPlayerArray cardsArray k) := List.perm_append_comm
  refine ⟨rfl, hperm.nodup_iff.mpr (hnodup.sublist hsub), fun card hcard => ?_⟩
  exact hlt card (hsub.subset (hperm.mem_iff.mp hcard))

/-- Nobody shares a card, and everybody's value is that of the best five of his cards and the board's. -/
theorem deal_fair {dealt : List PlayerCards} (hdeck : cardsArray.Perm (List.range 52))
    (hrun : dealPlayers cardsArray n = .ok dealt) :
    (tempBoardArray cardsArray ++ dealt.flatMap PlayerCards.myCards).Nodup ∧ dealt.length = n ∧
      ∀ p ∈ dealt, IsGreatest {value | ∃ five : List Nat, five.Subperm (p.myCards ++ tempBoardArray cardsArray) ∧
        five.length = 5 ∧ handValue five = value} p.myCardsValueInt ∧
        handValue (p.myBestHandPosition.map fun i => (p.myCards ++ tempBoardArray cardsArray).getD i 0) =
          p.myCardsValueInt := by
  rw [dealPlayers_eq] at hrun
  split_ifs at hrun with hn
  cases hrun
  refine ⟨?_, by rw [List.length_map, List.length_range], fun p hp => ?_⟩
  · rw [List.flatMap_map]
    exact (dealt_nodup hdeck (by omega)).1
  · obtain ⟨k, hk, rfl⟩ := List.mem_map.mp hp
    have hseven := sevenCards_dealt hdeck (show k < 23 by have hlt := List.mem_range.mp hk; omega)
    obtain ⟨c1, c2, c3, c4, c5, hfive⟩ := cardsValue_makes hseven.length hseven.nodup
    exact ⟨greatest hseven.length hseven.nodup, handValue_makes hfive⟩

/-- Two players get their cards from the array in its first order. -/
theorem deal_fair_unshuffled : ∃ p q, dealPlayers (List.range 52) 2 = .ok [p, q] ∧
    (tempBoardArray (List.range 52) ++ (p.myCards ++ q.myCards)).Nodup ∧
    IsGreatest {value | ∃ five : List Nat, five.Subperm (p.myCards ++ tempBoardArray (List.range 52)) ∧
      five.length = 5 ∧ handValue five = value} p.myCardsValueInt ∧
    handValue (p.myBestHandPosition.map fun i => (p.myCards ++ tempBoardArray (List.range 52)).getD i 0) =
      p.myCardsValueInt := by
  have hrun : dealPlayers (List.range 52) 2 = .ok [playerCards (List.range 52) 0, playerCards (List.range 52) 1] := rfl
  obtain ⟨hnodup, -, hbest⟩ := deal_fair (.refl _) hrun
  obtain ⟨hgreatest, hpositions⟩ := hbest _ List.mem_cons_self
  refine ⟨_, _, hrun, ?_, hgreatest, hpositions⟩
  simpa using hnodup

theorem create_values {h : Hand} (hrun : create v t dealerPosition smallBlind = .ok h) :
    h.activePlayerList.length ≤ 23 ∧
      ∀ r ∈ h.activePlayerList, (h.players r).myCardsValueInt = v (h.activePlayerList.idxOf r) := by
  have hcount : t.activePlayerList.length ≤ 23 := by
    by_contra hmany
    simp only [create, if_pos (show t.activePlayerList.length > 23 by omega)] at hrun
    cases hrun
  obtain ⟨k, hk, hh, -⟩ := create_cases hrun
  obtain ⟨hb, -⟩ := assignButtons_spec hk
  have hactive : h.activePlayerList = t.activePlayerList := by
    rw [hh]
    exact hb.activePlayerList
  rw [hactive]
  refine ⟨hcount, fun r hr => ?_⟩
  have hplayer : (h.players r).myCardsValueInt = (k.players r).myCardsValueInt := by
    rw [hh]
    simp only [setBlinds, setPlayers_players, updateAll]
    split_ifs
    all_goals simp only [postBlind_myCardsValueInt]
  have hbutton : (k.players r).myCardsValueInt =
      ((firstHand v t dealerPosition smallBlind).players r).myCardsValueInt := by
    have hsame := congrArg Player.myCardsValueInt (hb.players r)
    exact hsame
  rw [hplayer, hbutton]
  simp only [firstHand, dealCards, if_pos hr]

end PokerTH.Hand

namespace PokerTH.HandRun

open Hand Board CardsValue

variable {maxPlayers : Nat} {g : Game} {t : Table} {s : State} {h k h' : Hand} {cardsArray : List Nat} {elapsed : Int}

/-- The values of the hand are those of the cards that were dealt, until it is over. -/
theorem values_dealt (htotal : tableCash t < 2 ^ 31) (hready : Ready maxPlayers t)
    (hdeal : deal g (dealtValue cardsArray) elapsed t = some s) (hrun : Reachable maxPlayers s ⟨h, .loop⟩)
    (hk : h.advance = .ok k) :
    k.activePlayerList.length ≤ 23 ∧ ∀ r ∈ k.activePlayerList,
      (k.players r).myCardsValueInt = dealtValue cardsArray (k.activePlayerList.idxOf r) := by
  have hc := conserved_start (deal_start hready hdeal)
  obtain ⟨g', h₀, hinit, rfl⟩ : ∃ g' h₀, g.initHand (dealtValue cardsArray) elapsed t = .ok (g', h₀) ∧
      s = ⟨h₀.skipFirstRunGui.start, .loop⟩ := by
    simp only [deal] at hdeal
    split at hdeal
    · next g' h₀ hinit =>
        cases hdeal
        exact ⟨g', h₀, hinit, rfl⟩
    · cases hdeal
  have hframe : k.frame = h₀.frame :=
    (frame_advance hk).trans ((frame_reachable htotal hc hrun).trans (frame_start h₀))
  obtain ⟨raised, d, -, hcreate, -, -⟩ := initHand_cases hinit
  obtain ⟨hcount, hvalues⟩ := create_values hcreate
  rw [frame_activePlayerList hframe]
  refine ⟨hcount, fun r hr => ?_⟩
  rw [frame_myCardsValueInt hframe, hvalues r hr]

/-- Whoever wins chips has not folded and shows his cards, and nobody in the hand who has put in as much holds better
ones. -/
theorem showdown_fair (htotal : tableCash t < 2 ^ 31) (hready : Ready maxPlayers t)
    (hdeck : cardsArray.Perm (List.range 52)) (hdeal : deal g (dealtValue cardsArray) elapsed t = some s)
    (hrun : Reachable maxPlayers s ⟨h, .loop⟩) (hk : h.advance = .ok k)
    (hend : h.engineLoop maxPlayers = .ok (.endOfHand h')) {p : Ref} (hp : p ∈ k.seatsList)
    (hwon : (h'.players p).lastMoneyWon ≠ 0) :
    p ∈ k.activePlayerList ∧ (k.players p).myAction ≠ .fold ∧
      (k.players p).myUniqueID ∈ h'.board.playerNeedToShowCards ∧
      ∀ q ∈ k.activePlayerList, (k.players q).myAction ≠ .fold → stake (k.players p) ≤ stake (k.players q) →
        NotBeatenBy (tempPlayerAndBoardArray cardsArray (k.activePlayerList.idxOf p))
          (tempPlayerAndBoardArray cardsArray (k.activePlayerList.idxOf q)) := by
  obtain ⟨hcount, hvalues⟩ := values_dealt htotal hready hdeal hrun hk
  obtain ⟨k', hk', hcases⟩ := engineLoop_cases hend
  obtain rfl : k = k' := Except.ok.inj (hk.symm.trans hk')
  cases hcases with
  | endOfHand hround hpost =>
      cases conserved_reachable htotal (deal_start hready hdeal) hrun with
      | loop hs ho hn _ =>
          have hs := hs.congr (frame_advance hk)
          have ho := ho.advance hk
          have hshow : Showdown k.seatsList k.getCurrentBeRo.dealerPosition k.players :=
            ⟨hs.ids, hs.dealer _, exists_contender hs (advance_nonFoldPlayerCounter hn hk)⟩
          have hpot := determinePlayerNeedToShowCards_pot k.players k.activePlayerList k.board
          have hstakes := pot_eq_stakes ho.money hs (ho.cleared hround)
          have hint : k.board.pot < 2 ^ 31 := by
            have hsum := ho.money.sum
            have hcash := sumCash_nonneg ho.money
            rw [cleared_sumSets (ho.cleared hround)] at hsum
            omega
          simp only [postRiverRun] at hpost
          cases hpaid : distributePot k.players k.seatsList maxPlayers k.getCurrentBeRo.dealerPosition
              (determinePlayerNeedToShowCards k.players k.activePlayerList k.board) with
          | error e =>
              rw [hpaid] at hpost
              cases hpost
          | ok paid =>
              rw [hpaid] at hpost
              cases hpost
              obtain ⟨hlive, hbest, hshown⟩ :=
                distributePot_beaten hs.seats hshow (hpot.trans hstakes) (by rwa [hpot]) hpaid hp hwon
              obtain ⟨hactive, hfold⟩ := contender_iff.mp hlive
              have hmem : p ∈ k.activePlayerList := hs.mem_active.mpr ⟨hp, hactive⟩
              refine ⟨hmem, hfold, ?_, fun q hq hqfold hstake => ?_⟩
              · dsimp only
                rw [hshown, playerNeedToShowCards_eq, mem_sortUnique, mem_shown]
                exact ⟨p, hmem, hfold, rfl⟩
              · have hqseat := hs.mem_active.mp hq
                have hle : ¬ (k.players p).myCardsValueInt < (k.players q).myCardsValueInt := fun hless =>
                  hbest q ⟨hqseat.1, contender_iff.mpr ⟨hqseat.2, hqfold⟩, hless, hstake⟩
                rw [hvalues p hmem, hvalues q hq] at hle
                have hpk := (List.idxOf_lt_length_of_mem hmem).trans_le hcount
                have hqk := (List.idxOf_lt_length_of_mem hq).trans_le hcount
                exact (sevenCards_dealt hdeck hqk).notBeatenBy (sevenCards_dealt hdeck hpk) (by
                  simp only [dealtValue] at hle
                  omega)

/-- The end of a hand in which the first player wins as much as the second one has put in. -/
def endsForFirst (s : State) : Bool :=
  match s.phase, s.hand.advance, s.hand.engineLoop 2 with
  | .loop, .ok k, .ok (.endOfHand h') =>
      k.seatsList == [0, 1] && k.activePlayerList == [0, 1] && (k.players 1).myAction != .fold &&
        decide (stake (k.players 0) ≤ stake (k.players 1)) && (h'.players 0).lastMoneyWon != 0
  | _, _, _ => false

/-- Both players are all in. The board is from the queen to the ace and on to the three, and the first player gets the
four and the five. -/
theorem showdown_fair_allIn : ∃ h k h' : Hand, h.advance = .ok k ∧ h.engineLoop 2 = .ok (.endOfHand h') ∧
    NotBeatenBy (tempPlayerAndBoardArray ((List.range 52).rotate 10) 0)
      (tempPlayerAndBoardArray ((List.range 52).rotate 10) 1) := by
  have hplay : ((deal twoPlayersGame (dealtValue ((List.range 52).rotate 10)) 0 twoPlayers).bind fun s => play 2 s
      [.loopTimer, .request 1 ⟨1, 0, .allIn, 0⟩, .loopTimer, .request 2 ⟨1, 0, .allIn, 0⟩, .loopTimer, .loopTimer,
        .loopTimer]).any endsForFirst := by decide +kernel
  obtain ⟨s', hs', hcheck⟩ := (Option.any_eq_true _ _).mp hplay
  obtain ⟨s, hdeal, hrun⟩ := Option.bind_eq_some_iff.mp hs'
  obtain ⟨h, phase⟩ := s'
  simp only [endsForFirst] at hcheck
  split at hcheck
  · next k h' hk hend =>
      simp only [Bool.and_eq_true, beq_iff_eq, bne_iff_ne, decide_eq_true_eq] at hcheck
      obtain ⟨⟨⟨⟨hseats, hactive⟩, hfold⟩, hstake⟩, hwon⟩ := hcheck
      obtain ⟨-, -, -, hbest⟩ := showdown_fair (by decide) ready_twoPlayers (List.rotate_perm _ _) hdeal
        (play_reachable hrun) hk hend (show 0 ∈ k.seatsList by rw [hseats]; decide) hwon
      have hfirst := hbest 1 (by rw [hactive]; decide) hfold hstake
      rw [hactive] at hfirst
      exact ⟨h, k, h', hk, hend, hfirst⟩
  · cases hcheck

end PokerTH.HandRun
