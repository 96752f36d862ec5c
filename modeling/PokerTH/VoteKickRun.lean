import Mathlib.Data.List.Nodup
import PokerTH.VoteKick

namespace PokerTH.VoteKick

open Runs

/-- A petition as its players see it: who was counted when it was opened, and each vote so far. -/
structure Petition where
  petitionId : Nat
  kickPlayerId : Nat
  counted : List Nat
  ballots : List (Nat × KickVote)
  deriving DecidableEq, Repr

namespace Petition

def voters (p : Petition) : List Nat := p.ballots.map Prod.fst

def inFavour (p : Petition) : List Nat := (p.ballots.filter fun b => b.2 = .inFavour).map Prod.fst

def against (p : Petition) : List Nat := (p.ballots.filter fun b => b.2 ≠ .inFavour).map Prod.fst

/-- At least two thirds of the players counted. -/
def enough (p : Petition) (votes : Nat) : Prop := 2 * p.counted.length ≤ 3 * votes

instance (p : Petition) (votes : Nat) : Decidable (p.enough votes) := inferInstanceAs (Decidable (_ ≤ _))

def undecided (p : Petition) (players : List Nat) : List Nat := players.filter fun id => id ∉ p.voters

end Petition

/-- What a run notes down. A run of the timer names the players in the game, and how the petition ended if it
did: the reason, and whether the player was kicked. -/
inductive Note
  | opened (p : Petition)
  | vote (playerId : Nat) (vote : KickVote)
  | checked (players : List Nat) (ended : Option (EndPetitionReason × Bool))
  | dropped
  deriving DecidableEq, Repr

def noteStep : Option Petition → Note → Option Petition
  | _, .opened p => some p
  | open?, .vote playerId vote => open?.map fun p => { p with ballots := p.ballots ++ [(playerId, vote)] }
  | open?, .checked _ none => open?
  | _, .checked _ (some _) => none
  | _, .dropped => none

def openPetition (hist : List Note) : Option Petition := hist.foldl noteStep none

theorem openPetition_append (hist notes : List Note) :
    openPetition (hist ++ notes) = notes.foldl noteStep (openPetition hist) := List.foldl_append ..

def askNotes (s : ServerGame) : KickMessage → List Note
  | .startKickPetition petitionId proposingPlayerId kickPlayerId _ _ =>
      [.opened ⟨petitionId, kickPlayerId, s.players, [(proposingPlayerId, .inFavour)]⟩]
  | _ => []

def voteNotes (byWhom : Option Nat) (vote : KickVote) : KickMessage → List Note
  | .kickPetitionUpdate _ _ _ _ => byWhom.toList.map fun playerId => .vote playerId vote
  | _ => []

def timerNotes (s : ServerGame) : Option KickMessage → List Note
  | some (.endKickPetition _ _ _ resultPlayerKicked reason) =>
      [.checked s.getPlayerIdList (some (reason, resultPlayerKicked))]
  | _ => [.checked s.getPlayerIdList none]

/-- The steps of a game, in any order: players come and go, the game starts and ends, a session asks for a kick
or votes, the timer runs. -/
inductive Noted : ServerGame → List Note → ServerGame → Prop
  | join {s : ServerGame} (playerId : Nat) : Noted s [] { s with players := s.players ++ [playerId] }
  | leave {s : ServerGame} (playerId : Nat) : Noted s [] { s with players := s.players.erase playerId }
  | start {s : ServerGame} (computerPlayerList : List Nat) : Noted s [] { s with running := true, computerPlayerList }
  | endGame {s : ServerGame} : Noted s [.dropped] s.internalEndGame
  | ask {s s' : ServerGame} {msg : KickMessage} (byWhom : Option Nat) (playerIdWho timeoutSec : Nat)
      (hrun : s.internalAskVoteKick byWhom playerIdWho timeoutSec = (s', msg)) : Noted s (askNotes s msg) s'
  | vote {s s' : ServerGame} {msg : KickMessage} (byWhom : Option Nat) (petitionId : Nat) (vote : KickVote)
      (hrun : s.internalVoteKick byWhom petitionId vote = (s', msg)) : Noted s (voteNotes byWhom vote msg) s'
  | timer {s s' : ServerGame} {msg : Option KickMessage} (elapsedSec : Nat)
      (hrun : s.timerVoteKick false false elapsedSec = (s', msg)) : Noted s (timerNotes s msg) s'

def newGame : ServerGame := ⟨false, [], [], 1, none⟩

structure Records (d : VoteKickData) (p : Petition) : Prop where
  petitionId : d.petitionId = p.petitionId
  kickPlayerId : d.kickPlayerId = p.kickPlayerId
  threshold : ∀ votes : Nat, d.numVotesToKick ≤ votes ↔ p.enough votes
  favour : d.numVotesInFavourOfKicking = p.inFavour.length
  against : d.numVotesAgainstKicking = p.against.length
  voted : d.votedPlayerIds = p.voters
  once : p.voters.Nodup

inductive Tracks : Option VoteKickData → Option Petition → Prop
  | closed : Tracks none none
  | opened {d : VoteKickData} {p : Petition} (hr : Records d p) : Tracks (some d) (some p)

variable {s s' : ServerGame} {d : VoteKickData} {p : Petition} {msg : KickMessage} {byWhom : Option Nat}
  {hist notes : List Note}

theorem Petition.length_ballots (p : Petition) : p.inFavour.length + p.against.length = p.voters.length := by
  simp only [inFavour, against, voters, List.length_map]
  induction p.ballots with
  | nil => rfl
  | cons b ballots ih =>
      by_cases hb : b.2 = .inFavour
      · simp only [List.filter_cons, hb, ne_eq, decide_true, decide_false, not_true_eq_false, if_true,
          List.length_cons, ← ih]
        simp [Nat.add_right_comm]
      · simp only [List.filter_cons, hb, ne_eq, decide_true, decide_false, not_false_eq_true, if_true,
          List.length_cons, ← ih]
        simp [Nat.add_assoc]

theorem Petition.inFavour_nodup (h : p.voters.Nodup) : p.inFavour.Nodup :=
  h.sublist (List.filter_sublist.map _)

theorem Records.length_voted (hr : Records d p) :
    d.numVotesInFavourOfKicking + d.numVotesAgainstKicking = d.votedPlayerIds.length := by
  rw [hr.favour, hr.against, hr.voted, ← p.length_ballots, Int.natCast_add]

theorem records_newPetition (petitionId playerIdByWhom playerIdWho timeoutSec : Nat) (players : List Nat) :
    Records (ServerGame.newPetition petitionId playerIdByWhom playerIdWho players.length timeoutSec)
      ⟨petitionId, playerIdWho, players, [(playerIdByWhom, .inFavour)]⟩ := by
  refine ⟨rfl, rfl, fun votes => ?_, rfl, rfl, rfl, List.nodup_singleton _⟩
  simp only [ServerGame.newPetition, Petition.enough]
  omega

theorem records_addVote (hr : Records d p) {playerId : Nat} (hnew : playerId ∉ p.voters) (vote : KickVote) :
    Records (ServerGame.addVote d playerId vote) { p with ballots := p.ballots ++ [(playerId, vote)] } := by
  have hvoters : (p.ballots ++ [(playerId, vote)]).map Prod.fst = p.voters ++ [playerId] := List.map_append ..
  have honce : (p.voters ++ [playerId]).Nodup :=
    List.nodup_append.mpr ⟨hr.once, List.nodup_singleton _, fun a ha b hb => by
      rw [List.mem_singleton] at hb
      rintro rfl
      exact hnew (hb ▸ ha)⟩
  cases vote with
  | inFavour =>
      refine ⟨hr.petitionId, hr.kickPlayerId, hr.threshold, ?_, ?_, ?_, ?_⟩
      · have hf := hr.favour
        simp [ServerGame.addVote, Petition.inFavour, hf]
      · have ha := hr.against
        simp [ServerGame.addVote, Petition.against, ha]
      · simp only [ServerGame.addVote, Petition.voters, hvoters, hr.voted]
      · rw [Petition.voters, hvoters]
        exact honce
  | against =>
      refine ⟨hr.petitionId, hr.kickPlayerId, hr.threshold, ?_, ?_, ?_, ?_⟩
      · have hf := hr.favour
        simp [ServerGame.addVote, Petition.inFavour, hf]
      · have ha := hr.against
        simp [ServerGame.addVote, Petition.against, ha]
      · simp only [ServerGame.addVote, Petition.voters, hvoters, hr.voted]
      · rw [Petition.voters, hvoters]
        exact honce

/-- A request opens a petition where none is open, or it changes nothing. -/
theorem ask_spec {playerIdWho timeoutSec : Nat} (hrun : s.internalAskVoteKick byWhom playerIdWho timeoutSec = (s', msg)) :
    (askNotes s msg = [] ∧ s' = s) ∨ ∃ d p, askNotes s msg = [.opened p] ∧ s.voteKickData = none ∧
      s'.voteKickData = some d ∧ p.counted = s.players ∧ Records d p := by
  simp only [ServerGame.internalAskVoteKick] at hrun
  split at hrun
  · next playerIdByWhom _ =>
      split_ifs at hrun with hself hmany hvalid
      · cases hrun
        exact .inl ⟨rfl, rfl⟩
      · split at hrun
        · next hnone =>
            cases hrun
            exact .inr ⟨_, _, rfl, hnone, rfl, rfl, records_newPetition _ _ _ _ _⟩
        · cases hrun
          exact .inl ⟨rfl, rfl⟩
      · cases hrun
        exact .inl ⟨rfl, rfl⟩
      · cases hrun
        exact .inl ⟨rfl, rfl⟩
  · cases hrun
    exact .inl ⟨rfl, rfl⟩

theorem vote_spec {petitionId : Nat} {vote : KickVote} (hrun : s.internalVoteKick byWhom petitionId vote = (s', msg)) :
    (voteNotes byWhom vote msg = [] ∧ s' = s) ∨ ∃ d playerId, voteNotes byWhom vote msg = [.vote playerId vote] ∧
      s.voteKickData = some d ∧ d.petitionId = petitionId ∧ playerId ∉ d.votedPlayerIds ∧
      s'.voteKickData = some (ServerGame.addVote d playerId vote) := by
  simp only [ServerGame.internalVoteKick] at hrun
  split at hrun
  · next playerId _ =>
      split at hrun
      · cases hrun
        exact .inl ⟨rfl, rfl⟩
      · next d hopen =>
          split_ifs at hrun with hid hvoted
          · cases hrun
            exact .inl ⟨rfl, rfl⟩
          · cases hrun
            exact .inr ⟨d, playerId, rfl, hopen, hid, by simpa using hvoted, rfl⟩
          · cases hrun
            exact .inl ⟨rfl, rfl⟩
  · cases hrun
    exact .inl ⟨rfl, rfl⟩

theorem timer_spec {elapsedSec : Nat} {msg : Option KickMessage} (hrun : s.timerVoteKick false false elapsedSec = (s', msg)) :
    (s.voteKickData = none ∧ s'.voteKickData = none ∧ timerNotes s msg = [.checked s.getPlayerIdList none]) ∨
      ∃ d, s.voteKickData = some d ∧
        s'.voteKickData = (if (s.endPetitionReason d elapsedSec).isSome then none else some d) ∧
        timerNotes s msg = [.checked s.getPlayerIdList ((s.endPetitionReason d elapsedSec).map fun reason =>
          (reason, reason == .enoughVotes))] := by
  simp only [ServerGame.timerVoteKick, Bool.false_eq_true, or_self, if_false] at hrun
  split at hrun
  · next hnone =>
      cases hrun
      exact .inl ⟨hnone, hnone, rfl⟩
  · next d hopen =>
      split at hrun
      · next hgoes =>
          cases hrun
          refine .inr ⟨d, hopen, ?_, ?_⟩
          · rw [hgoes]
            exact hopen
          · rw [hgoes]
            rfl
      · next reason hends =>
          cases hrun
          refine .inr ⟨d, hopen, ?_, ?_⟩
          · rw [hends]
            rfl
          · rw [hends]
            rfl

structure Ends (p : Petition) (players : List Nat) (ended : Option (EndPetitionReason × Bool)) : Prop where
  once : p.voters.Nodup
  kicked : ∀ reason, ended = some (reason, true) → p.enough p.inFavour.length
  notEnoughPlayers : (∃ kicked, ended = some (.notEnoughPlayers, kicked)) ↔
    ¬ p.enough p.inFavour.length ∧ ¬ p.enough (p.inFavour.length + (p.undecided players).length)

theorem endPetitionReason_enoughVotes {elapsedSec : Nat} :
    s.endPetitionReason d elapsedSec = some .enoughVotes ↔ d.numVotesToKick ≤ d.numVotesInFavourOfKicking := by
  simp only [ServerGame.endPetitionReason]
  split_ifs with hkick
  · exact iff_of_true rfl hkick
  all_goals exact iff_of_false nofun hkick

theorem endPetitionReason_notEnoughPlayers {elapsedSec : Nat} :
    s.endPetitionReason d elapsedSec = some .notEnoughPlayers ↔
      ¬ d.numVotesToKick ≤ d.numVotesInFavourOfKicking ∧ ¬ d.numVotesToKick ≤ d.numVotesInFavourOfKicking +
        s.getPlayerIdList.countP fun id => ¬ d.votedPlayerIds.contains id := by
  simp only [ServerGame.endPetitionReason]
  split_ifs with hkick hfew
  · exact iff_of_false nofun fun h => h.1 hkick
  · exact iff_of_true rfl ⟨hkick, by omega⟩
  all_goals exact iff_of_false nofun fun h => h.2 (by omega)

theorem ends_endPetitionReason (hr : Records d p) (elapsedSec : Nat) :
    Ends p s.getPlayerIdList ((s.endPetitionReason d elapsedSec).map fun reason => (reason, reason == .enoughVotes)) := by
  have hallowed : s.getPlayerIdList.countP (fun id => ¬ d.votedPlayerIds.contains id) =
      (p.undecided s.getPlayerIdList).length := by
    rw [List.countP_eq_length_filter, Petition.undecided, hr.voted]
    congr 1
    apply List.filter_congr
    simp
  have hfavour := hr.threshold p.inFavour.length
  have hall := hr.threshold (p.inFavour.length + (p.undecided s.getPlayerIdList).length)
  rw [Int.natCast_add] at hall
  refine ⟨hr.once, fun reason hreason => ?_, ?_⟩
  · obtain ⟨reason, hends, hpair⟩ := Option.map_eq_some_iff.mp hreason
    obtain ⟨rfl, hkicked⟩ := Prod.mk.inj hpair
    rw [eq_of_beq hkicked, endPetitionReason_enoughVotes, hr.favour] at hends
    exact hfavour.mp hends
  · rw [← hfavour, ← hall, ← hallowed, ← hr.favour, ← endPetitionReason_notEnoughPlayers]
    constructor
    · rintro ⟨kicked, hends⟩
      obtain ⟨reason, hreason, hpair⟩ := Option.map_eq_some_iff.mp hends
      rw [hreason, (Prod.mk.inj hpair).1]
    · intro hends
      exact ⟨false, by rw [hends]; rfl⟩

def Lawful (before : List Note) : Note → Prop
  | .opened _ => openPetition before = none
  | .vote playerId _ => ∃ p, openPetition before = some p ∧ playerId ∉ p.voters
  | .checked players ended =>
      (openPetition before = none ∧ ended = none) ∨ ∃ p, openPetition before = some p ∧ Ends p players ended
  | .dropped => True

/-- The server tracks the petition that the history leaves open, and the history is lawful. -/
structure Sound (hist : List Note) (s : ServerGame) : Prop where
  tracks : Tracks s.voteKickData (openPetition hist)
  lawful : Each Lawful hist

theorem Tracks.closed_iff {d? : Option VoteKickData} {p? : Option Petition} (ht : Tracks d? p?) : d? = none ↔ p? = none := by
  cases ht with
  | closed => exact ⟨fun _ => rfl, fun _ => rfl⟩
  | opened => exact ⟨nofun, nofun⟩

theorem Sound.opened (hs : Sound hist s) (hopen : s.voteKickData = some d) :
    ∃ p, openPetition hist = some p ∧ Records d p := by
  have ht := hs.tracks
  rw [hopen] at ht
  generalize openPetition hist = p? at ht
  cases ht with
  | opened hr => exact ⟨_, rfl, hr⟩

theorem sound_step (hs : Sound hist s) (hstep : Noted s notes s') : Sound (hist ++ notes) s' := by
  cases hstep with
  | join playerId =>
      rw [List.append_nil]
      exact ⟨hs.tracks, hs.lawful⟩
  | leave playerId =>
      rw [List.append_nil]
      exact ⟨hs.tracks, hs.lawful⟩
  | start computerPlayerList =>
      rw [List.append_nil]
      exact ⟨hs.tracks, hs.lawful⟩
  | endGame =>
      constructor
      · rw [openPetition_append]
        exact .closed
      · exact hs.lawful.snoc trivial
  | ask byWhom playerIdWho timeoutSec hrun =>
      rcases ask_spec hrun with ⟨hnone, rfl⟩ | ⟨d, p, hnote, hclosed, hopen, _, hr⟩
      · rw [hnone, List.append_nil]
        exact hs
      · rw [hnote]
        constructor
        · rw [openPetition_append, hopen]
          exact .opened hr
        · apply hs.lawful.snoc
          exact hs.tracks.closed_iff.mp hclosed
  | vote byWhom petitionId vote hrun =>
      rcases vote_spec hrun with ⟨hnone, rfl⟩ | ⟨d, playerId, hnote, hopen, _, hnew, hvoted⟩
      · rw [hnone, List.append_nil]
        exact hs
      · obtain ⟨p, hp, hr⟩ := hs.opened hopen
        rw [hr.voted] at hnew
        rw [hnote]
        constructor
        · rw [openPetition_append, hvoted, hp]
          exact .opened (records_addVote hr hnew vote)
        · apply hs.lawful.snoc
          exact ⟨p, hp, hnew⟩
  | timer elapsedSec hrun =>
      rcases timer_spec hrun with ⟨hclosed, hclosed', hnote⟩ | ⟨d, hopen, hopen', hnote⟩
      · have hnone := hs.tracks.closed_iff.mp hclosed
        rw [hnote]
        constructor
        · rw [openPetition_append, hclosed', hnone]
          exact .closed
        · apply hs.lawful.snoc
          exact .inl ⟨hnone, rfl⟩
      · obtain ⟨p, hp, hr⟩ := hs.opened hopen
        rw [hnote]
        constructor
        · rw [openPetition_append, hopen', hp]
          cases s.endPetitionReason d elapsedSec with
          | none => exact .opened hr
          | some reason => exact .closed
        · apply hs.lawful.snoc
          exact .inr ⟨p, hp, ends_endPetitionReason hr elapsedSec⟩

theorem sound_run (hrun : History Noted newGame hist s) : Sound hist s :=
  hrun.invariant ⟨.closed, Each.nil⟩ fun _ _ _ _ hs hstep => sound_step hs hstep

structure Safe (hist : List Note) (s : ServerGame) : Prop where
  one : ∀ before p after, hist = before ++ .opened p :: after → openPetition before = none
  closed : s.voteKickData = none ↔ openPetition hist = none
  recorded : ∀ d, s.voteKickData = some d → ∃ p, openPetition hist = some p ∧ Records d p
  once : ∀ d, s.voteKickData = some d → d.votedPlayerIds.Nodup
  counted : ∀ d, s.voteKickData = some d →
    d.numVotesInFavourOfKicking + d.numVotesAgainstKicking = d.votedPlayerIds.length
  kicked : ∀ before players reason after, hist = before ++ .checked players (some (reason, true)) :: after →
    ∃ p, openPetition before = some p ∧ p.inFavour.Nodup ∧ p.enough p.inFavour.length
  notEnoughPlayers : ∀ before players ended after p, hist = before ++ .checked players ended :: after →
    openPetition before = some p → ((∃ kicked, ended = some (.notEnoughPlayers, kicked)) ↔
      ¬ p.enough p.inFavour.length ∧ ¬ p.enough (p.inFavour.length + (p.undecided players).length))

theorem vote_kick_safe (hrun : History Noted newGame hist s) : Safe hist s := by
  have hs := sound_run hrun
  constructor
  · intro before p after hhist
    exact hs.lawful before _ after hhist
  · exact hs.tracks.closed_iff
  · intro d hopen
    exact hs.opened hopen
  · intro d hopen
    obtain ⟨p, _, hr⟩ := hs.opened hopen
    rw [hr.voted]
    exact hr.once
  · intro d hopen
    obtain ⟨p, _, hr⟩ := hs.opened hopen
    exact hr.length_voted
  · intro before players reason after hhist
    rcases hs.lawful before _ after hhist with ⟨_, hended⟩ | ⟨p, hp, he⟩
    · cases hended
    · exact ⟨p, hp, p.inFavour_nodup he.once, he.kicked reason rfl⟩
  · intro before players ended after p hhist hp
    rcases hs.lawful before _ after hhist with ⟨hnone, _⟩ | ⟨q, hq, he⟩
    · rw [hp] at hnone
      cases hnone
    · rw [hp] at hq
      cases hq
      exact he.notEnoughPlayers

/-- The first of three players asks for a kick, leaves, comes back under a new id and votes once more. -/
theorem votedAgain_history : ∃ s, History Noted newGame [.opened ⟨1, 2, [1, 2, 3], [(1, .inFavour)]⟩, .vote 4 .inFavour,
    .checked [2, 3, 4] (some (.enoughVotes, true))] s := by
  have hplayers := (((@History.start _ _ Noted newGame).step (.join 1)).step (.join 2)).step (.join 3)
  have hasked := (hplayers.step (.start [])).step (.ask (some 1) 2 30 rfl)
  have hback := (hasked.step (.leave 1)).step (.join 4)
  exact ⟨_, (hback.step (.vote (some 4) 1 .inFavour rfl)).step (.timer 0 rfl)⟩

theorem vote_kick_safe_votedAgain : ∃ hist s, History Noted newGame hist s ∧
    .checked [2, 3, 4] (some (.enoughVotes, true)) ∈ hist ∧ Safe hist s := by
  obtain ⟨s, hrun⟩ := votedAgain_history
  exact ⟨_, s, hrun, by simp, vote_kick_safe hrun⟩

/-- One of the three players counted voted for the kick. -/
theorem kicked_by_one_of_three : ∃ hist s, History Noted newGame hist s ∧
    ∃ before players reason after p, hist = before ++ .checked players (some (reason, true)) :: after ∧
      openPetition before = some p ∧ ¬ p.enough (p.counted.filter fun id => id ∈ p.inFavour).length := by
  obtain ⟨s, hrun⟩ := votedAgain_history
  exact ⟨_, s, hrun, [.opened ⟨1, 2, [1, 2, 3], [(1, .inFavour)]⟩, .vote 4 .inFavour], _, _, [], _, rfl, rfl, by decide⟩

end PokerTH.VoteKick
