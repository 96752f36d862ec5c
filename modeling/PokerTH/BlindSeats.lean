import PokerTH.TurnOrder

namespace PokerTH.Hand

open HandRun

variable {maxPlayers : Nat} {t : Table} {g g' : Game} {h h' k : Hand} {r sb bb it : Ref}

structure BlindSeats (h : Hand) (sb bb : Ref) : Prop where
  small_mem : sb ∈ h.activePlayerList
  big_mem : bb ∈ h.activePlayerList
  ne : sb ≠ bb
  small : ∀ r ∈ h.activePlayerList, (h.players r).myButton = .smallBlind ↔ r = sb
  big : ∀ r ∈ h.activePlayerList, (h.players r).myButton = .bigBlind ↔ r = bb
  smallId : ∀ s, (h.myBeRo s).smallBlindPositionId = h.uniqueID sb
  bigId : ∀ s, (h.myBeRo s).bigBlindPositionId = h.uniqueID bb
  order : 2 < h.activePlayerList.length → Cyclic.next h.activePlayerList sb = bb

theorem frame_myButton (hf : h'.frame = h.frame) (r : Ref) : (h'.players r).myButton = (h.players r).myButton :=
  congrArg (fun h => (h.players r).myButton) hf

theorem BlindSeats.congr (hb : BlindSeats h sb bb) (hf : h'.frame = h.frame) : BlindSeats h' sb bb := by
  have hactive := frame_activePlayerList hf
  have hid (r : Ref) : h'.uniqueID r = h.uniqueID r := frame_myUniqueID hf r
  have hsmall (s : GameState) := congrArg (fun b => b.smallBlindPositionId) (frame_beRo hf s)
  have hbig (s : GameState) := congrArg (fun b => b.bigBlindPositionId) (frame_beRo hf s)
  refine ⟨?_, ?_, hb.ne, ?_, ?_, fun s => ?_, fun s => ?_, ?_⟩
  · rw [hactive]
    exact hb.small_mem
  · rw [hactive]
    exact hb.big_mem
  · simpa only [hactive, frame_myButton hf] using hb.small
  · simpa only [hactive, frame_myButton hf] using hb.big
  · rw [hid]
    exact (hsmall s).trans (hb.smallId s)
  · rw [hid]
    exact (hbig s).trans (hb.bigId s)
  · rw [hactive]
    exact hb.order

/-- The blind buttons that the player `it` next to the dealer and the one after him get. -/
def blindButton (n : Nat) (it next r : Ref) : Button :=
  if r = next then (if 2 < n then .bigBlind else .smallBlind)
  else if r = it then (if 2 < n then .smallBlind else .bigBlind)
  else .none

theorem setMyButton_myButton (h : Hand) (q r : Ref) (b : Button) :
    ((h.setMyButton q b).players r).myButton = if r = q then b else (h.players r).myButton := by
  by_cases hr : r = q
  · subst hr
    simp [setMyButton, updatePlayer, Player.setMyButton]
  · simp [setMyButton, updatePlayer, hr]

theorem assignBlindButtons_myButton (h : Hand) (it r : Ref) :
    ((h.assignBlindButtons it).players r).myButton =
      if r = Cyclic.next h.activePlayerList it ∨ r = it then
        blindButton h.activePlayerList.length it (Cyclic.next h.activePlayerList it) r
      else (h.players r).myButton := by
  have hfirst (b : Button) : (((h.setMyButton it b).setLastActionPlayerID (h.uniqueID it)).players r).myButton =
      if r = it then b else (h.players r).myButton := setMyButton_myButton h it r b
  simp only [assignBlindButtons, blindButton]
  split_ifs with hlen hblind hnext hit
  all_goals dsimp only
  all_goals rw [setMyButton_myButton, hfirst]
  all_goals simp_all

theorem assignButtons_myButton (hsub : ∀ r ∈ h.activePlayerList, r ∈ h.seatsList) (hrun : h.assignButtons = .ok h') :
    ∃ it ∈ h.activePlayerList, ∀ r ∈ h.activePlayerList, ∀ b, b ≠ .none → b ≠ .dealer →
      ((h'.players r).myButton = b ↔
        blindButton h.activePlayerList.length it (Cyclic.next h.activePlayerList it) r = b) := by
  simp only [assignButtons] at hrun
  split at hrun
  · cases hrun
  · next dealer hdealer =>
      split at hrun
      · cases hrun
      · next it hit =>
          cases hrun
          obtain ⟨q, _, hq⟩ := List.exists_of_findSome?_eq_some hit
          refine ⟨it, (findPlayer_some hq).1, fun r hr b hnone hdeal => ?_⟩
          rw [assignBlindButtons_myButton]
          change (if r = Cyclic.next h.activePlayerList it ∨ r = it then _ else _) = b ↔ _
          split_ifs with hblind
          · rfl
          · rw [not_or] at hblind
            have hclear : ((h.clearButtons.setMyButton dealer .dealer).players r).myButton = .none ∨
                ((h.clearButtons.setMyButton dealer .dealer).players r).myButton = .dealer := by
              by_cases hd : r = dealer
              · simp [setMyButton, updatePlayer, hd, Player.setMyButton]
              · simp [setMyButton, updatePlayer, hd, clearButtons, updateAll, hsub r hr, Player.setMyButton]
            simp only [blindButton, if_neg hblind.1, if_neg hblind.2]
            refine ⟨fun hb => ?_, fun hb => absurd hb.symm hnone⟩
            rcases hclear with hc | hc
            · exact absurd (hb.symm.trans hc) hnone
            · exact absurd (hb.symm.trans hc) hdeal

theorem postBlind_myButton (b : Button) (amount : Int) (p : Player) : (postBlind b amount p).myButton = p.myButton := by
  simp only [postBlind]
  split_ifs <;> rfl

theorem setBlinds_myButton (h : Hand) (r : Ref) : (h.setBlinds.players r).myButton = (h.players r).myButton := by
  simp only [setBlinds, setPlayers_players, updateAll, setPlayers_runningPlayerList]
  split_ifs <;> simp only [postBlind_myButton]

/-- A blind that leaves the player in the betting has been posted in full. -/
structure Posted (h : Hand) : Prop where
  leaves : ∀ r ∈ h.activePlayerList, leavesRunning (h.players r) = true →
    (h.players r).myButton = .smallBlind ∨ (h.players r).myButton = .bigBlind
  small : ∀ r ∈ h.activePlayerList, (h.players r).myButton = .smallBlind →
    h.smallBlind ≤ (h.players r).mySet ∨ (h.players r).myCash = 0
  broke : ∀ r ∈ h.activePlayerList, (h.players r).myAction = .allIn → (h.players r).myCash = 0

theorem postBlind_of_ne {b : Button} {amount : Int} {p : Player} (hb : p.myButton ≠ b) : postBlind b amount p = p := by
  rw [postBlind, if_neg hb]

theorem postBlind_cases (b : Button) (amount : Int) {p : Player} (hb : p.myButton = b) (hset : p.mySet = 0)
    (hcash : 0 ≤ p.myCash) : (postBlind b amount p).myAction = .allIn ∧ (postBlind b amount p).myCash = 0 ∨
      (postBlind b amount p).myAction = p.myAction ∧ amount ≤ (postBlind b amount p).mySet := by
  simp only [postBlind, if_pos hb]
  split_ifs with hle
  · left
    refine ⟨rfl, ?_⟩
    change (p.setMySet p.myCash).myCash = 0
    rw [Player.setMySet_myCash hcash, Player.clampToCash_of_le hcash le_rfl, sub_self]
  · right
    refine ⟨rfl, ?_⟩
    rw [Player.setMySet_mySet, hset, Player.clampToCash]
    split_ifs <;> omega

theorem posted_setBlinds (hrun : h.runningPlayerList = h.activePlayerList)
    (hset : ∀ r ∈ h.activePlayerList, (h.players r).mySet = 0)
    (hcash : ∀ r ∈ h.activePlayerList, 0 ≤ (h.players r).myCash)
    (hnone : ∀ r ∈ h.activePlayerList, (h.players r).myAction = .none) : Posted h.setBlinds := by
  have hplayer (r : Ref) (hr : r ∈ h.activePlayerList) : h.setBlinds.players r =
      postBlind .bigBlind (2 * h.smallBlind) (postBlind .smallBlind h.smallBlind (h.players r)) := by
    simp [setBlinds, updateAll, hrun, hr]
  have hsmall (r : Ref) (hr : r ∈ h.activePlayerList) (hb : (h.players r).myButton = .smallBlind) :
      h.setBlinds.players r = postBlind .smallBlind h.smallBlind (h.players r) := by
    rw [hplayer r hr, postBlind_of_ne]
    rw [postBlind_myButton, hb]
    decide
  have hother (r : Ref) (hr : r ∈ h.activePlayerList) (hb : (h.players r).myButton ≠ .smallBlind) :
      h.setBlinds.players r = postBlind .bigBlind (2 * h.smallBlind) (h.players r) := by
    rw [hplayer r hr, postBlind_of_ne hb]
  refine ⟨fun r hr hleave => ?_, fun r hr hb => ?_, fun r hr hall => ?_⟩
  · rw [setBlinds_myButton]
    by_contra hne
    rw [not_or] at hne
    rw [hother r hr hne.1, postBlind_of_ne hne.2, leavesRunning, hnone r hr] at hleave
    cases hleave
  · rw [setBlinds_myButton] at hb
    rw [hsmall r hr hb]
    rcases postBlind_cases .smallBlind h.smallBlind hb (hset r hr) (hcash r hr) with ⟨_, hzero⟩ | ⟨_, hle⟩
    · exact .inr hzero
    · exact .inl hle
  · by_cases hb : (h.players r).myButton = .smallBlind
    · rw [hsmall r hr hb] at hall ⊢
      rcases postBlind_cases .smallBlind h.smallBlind hb (hset r hr) (hcash r hr) with ⟨_, hzero⟩ | ⟨hsame, _⟩
      · exact hzero
      · rw [hsame, hnone r hr] at hall
        cases hall
    · rw [hother r hr hb] at hall ⊢
      by_cases hbig : (h.players r).myButton = .bigBlind
      · rcases postBlind_cases .bigBlind (2 * h.smallBlind) hbig (hset r hr) (hcash r hr) with
          ⟨_, hzero⟩ | ⟨hsame, _⟩
        · exact hzero
        · rw [hsame, hnone r hr] at hall
          cases hall
      · rw [postBlind_of_ne hbig, hnone r hr] at hall
        cases hall

theorem newBeRo_buttons {gS : GameState} {b : BeRo} (hrun : h.newBeRo gS = .ok b) :
    ∃ sb ∈ h.activePlayerList, ∃ bb ∈ h.activePlayerList, (h.players sb).myButton = .smallBlind ∧
      (h.players bb).myButton = .bigBlind ∧ b.smallBlindPositionId = h.uniqueID sb ∧
      b.bigBlindPositionId = h.uniqueID bb := by
  simp only [newBeRo] at hrun
  split at hrun
  · next bb sb hbb hsb =>
      cases hrun
      exact ⟨sb, List.mem_of_find?_eq_some hsb, bb, List.mem_of_find?_eq_some hbb, by simpa using List.find?_some hsb,
        by simpa using List.find?_some hbb, rfl, rfl⟩
  · cases hrun

theorem blindButton_unique {n : Nat} {next r q : Ref} {b : Button} (hb : b ≠ .none)
    (hr : blindButton n it next r = b) (hq : blindButton n it next q = b) : r = q := by
  simp only [blindButton] at hr hq
  split_ifs at hr hq
  all_goals first
    | rw [‹r = next›, ‹q = next›]
    | rw [‹r = it›, ‹q = it›]
    | cases b <;> simp at hr hq hb

theorem blindSeats_of_buttons (hne : ∀ s, h.newBeRo s = .ok (h.myBeRo s))
    (hit : ∃ it ∈ h.activePlayerList, ∀ r ∈ h.activePlayerList, ∀ b, b ≠ .none → b ≠ .dealer →
      ((h.players r).myButton = b ↔
        blindButton h.activePlayerList.length it (Cyclic.next h.activePlayerList it) r = b)) :
    ∃ sb bb, BlindSeats h sb bb := by
  obtain ⟨it, hmem, hbutton⟩ := hit
  obtain ⟨sb, hsb, bb, hbb, hsmall, hbig, _, _⟩ := newBeRo_buttons (hne .preflop)
  have hsmall' := (hbutton sb hsb .smallBlind nofun nofun).mp hsmall
  have hbig' := (hbutton bb hbb .bigBlind nofun nofun).mp hbig
  have hsbq (q : Ref) (hq : q ∈ h.activePlayerList) (hb : (h.players q).myButton = .smallBlind) : q = sb :=
    blindButton_unique (b := .smallBlind) nofun ((hbutton q hq .smallBlind nofun nofun).mp hb) hsmall'
  have hbbq (q : Ref) (hq : q ∈ h.activePlayerList) (hb : (h.players q).myButton = .bigBlind) : q = bb :=
    blindButton_unique (b := .bigBlind) nofun ((hbutton q hq .bigBlind nofun nofun).mp hb) hbig'
  refine ⟨sb, bb, hsb, hbb, ?_, fun q hq => ⟨hsbq q hq, ?_⟩, fun q hq => ⟨hbbq q hq, ?_⟩, fun s => ?_, fun s => ?_,
    fun hlen => ?_⟩
  · rintro rfl
    rw [hsmall] at hbig
    cases hbig
  · rintro rfl
    exact hsmall
  · rintro rfl
    exact hbig
  · obtain ⟨q, hq, _, _, hbq, _, hid, _⟩ := newBeRo_buttons (hne s)
    rw [hid, hsbq q hq hbq]
  · obtain ⟨_, _, q, hq, _, hbq, _, hid⟩ := newBeRo_buttons (hne s)
    rw [hid, hbbq q hq hbq]
  · have hnext := Cyclic.next_mem hmem
    have hit : sb = it := by
      simp only [blindButton, if_pos hlen] at hsmall'
      split_ifs at hsmall' with _ heq
      exact heq
    have hnext' : bb = Cyclic.next h.activePlayerList it := by
      simp only [blindButton, if_pos hlen] at hbig'
      split_ifs at hbig' with heq
      exact heq
    rw [hit, hnext']

theorem created_blinds (hr : Ready maxPlayers t) {v : Nat → Nat} {d : Nat} {blind : Int}
    (hrun : Hand.create v (Game.clearTable t) d blind = .ok h) : (∃ sb bb, BlindSeats h sb bb) ∧ Posted h := by
  have hc := (created_create hr hrun).1
  obtain ⟨k, hk, hh, _⟩ := create_cases hrun
  obtain ⟨hb, _, _⟩ := assignButtons_spec hk
  have hfirst := opened_firstHand hr v d blind
  have hsub : ∀ r ∈ (firstHand v (Game.clearTable t) d blind).activePlayerList,
      r ∈ (firstHand v (Game.clearTable t) d blind).seatsList := fun r hr => by
    rw [hfirst.active] at hr
    exact List.mem_of_mem_filter hr
  obtain ⟨it, hit, hbutton⟩ := assignButtons_myButton hsub hk
  have hactive : h.activePlayerList = k.activePlayerList := congrArg (fun h => h.activePlayerList) hh
  have hplayers : h.players = k.setBlinds.players := congrArg (fun h => h.players) hh
  have hblind : h.smallBlind = k.smallBlind := congrArg (fun h => h.smallBlind) hh
  have hactive' := hb.activePlayerList
  have ho := hfirst.buttoned hb
  have hfield {β : Type} (f : Player → β) (hf : ∀ p b, f (p.setMyButton b) = f p) (r : Ref) :
      f (k.players r) = f ((firstHand v (Game.clearTable t) d blind).players r) := by
    rw [← hf (k.players r) .none, hb.players, hf]
  refine ⟨blindSeats_of_buttons hc.beRo ⟨it, ?_, ?_⟩, ?_⟩
  · rw [hactive, hactive']
    exact hit
  · rw [hactive, hactive', hplayers]
    intro r hmem b
    rw [setBlinds_myButton]
    exact hbutton r hmem b
  · have hposted : Posted k.setBlinds := by
      refine posted_setBlinds ho.running (fun r hmem => ?_) (fun r hmem => ?_) fun r hmem => ?_
      · have hset := hfield (fun p => p.mySet) (fun _ _ => rfl) r
        rw [hactive'] at hmem
        have hseat := hsub r hmem
        rw [hset]
        change (dealCards v (Game.clearTable t) r).mySet = 0
        rw [dealCards_mySet, clearTable_players hr.active hseat]
        exact hr.set_zero r hseat
      · rw [hactive'] at hmem
        exact (ho.players r (hsub r hmem)).cash
      · have haction := hfield (fun p => p.myAction) (fun _ _ => rfl) r
        rw [hactive'] at hmem
        have hseat := hsub r hmem
        rw [haction]
        change (dealCards v (Game.clearTable t) r).myAction = .none
        have hclear := congrArg Player.myAction (clearTable_players hr.active hseat)
        simp only [dealCards]
        split_ifs
        · exact hclear
        · exact hclear
    refine ⟨?_, ?_, ?_⟩
    · rw [hactive, hplayers]
      exact hposted.leaves
    · rw [hactive, hplayers, hblind]
      exact hposted.small
    · rw [hactive, hplayers]
      exact hposted.broke

end PokerTH.Hand
