import Mathlib.Algebra.Group.Nat.Defs
import PokerTH.Runs

namespace PokerTH.VoteKick

inductive KickVote
  | against | inFavour
  deriving DecidableEq, Repr

inductive DenyKickPlayerReason
  | invalidState | tooFewPlayers | otherInProgress | invalidPlayerId | cannotKickSelf
  deriving DecidableEq, Repr

inductive DenyVoteReason
  | invalidPetition | alreadyVoted
  deriving DecidableEq, Repr

inductive EndPetitionReason
  | enoughVotes | notEnoughPlayers | playerLeft | timeout
  deriving DecidableEq, Repr

structure VoteKickData where
  petitionId : Nat
  kickPlayerId : Nat
  numVotesToKick : Int
  numVotesInFavourOfKicking : Int
  numVotesAgainstKicking : Int
  timeLimitSec : Nat
  votedPlayerIds : List Nat
  deriving DecidableEq, Repr

inductive KickMessage
  | startKickPetition (petitionId proposingPlayerId kickPlayerId kickTimeoutSec : Nat) (numVotesNeededToKick : Int)
  | askKickDenied (playerId : Nat) (kickDeniedReason : DenyKickPlayerReason)
  | kickPetitionUpdate (petitionId : Nat)
      (numVotesAgainstKicking numVotesInFavourOfKicking numVotesNeededToKick : Int)
  | voteKickReply (petitionId : Nat) (voteKickReplyType : DenyVoteReason)
  | endKickPetition (petitionId : Nat) (numVotesAgainstKicking numVotesInFavourOfKicking : Int)
      (resultPlayerKicked : Bool) (petitionEndReason : EndPetitionReason)
  deriving DecidableEq, Repr

structure ServerGame where
  running : Bool
  players : List Nat
  computerPlayerList : List Nat
  curPetitionId : Nat
  voteKickData : Option VoteKickData
  deriving DecidableEq, Repr

def SERVER_KICK_TIMEOUT_ADD_DELAY_SEC : Nat := 2

namespace ServerGame

def getPlayerIdList (s : ServerGame) : List Nat := s.players ++ s.computerPlayerList

def isValidPlayer (s : ServerGame) (playerId : Nat) : Bool := s.getPlayerIdList.contains playerId

/-- The session of a kicked player moves to the lobby; a computer player has none. -/
def kickPlayer (s : ServerGame) (playerId : Nat) : ServerGame :=
  { s with players := s.players.filter fun id => id ≠ playerId }

def internalEndGame (s : ServerGame) : ServerGame := { s with running := false, voteKickData := none }

/-- The id of the next petition, which is never 0, and the counter after it. -/
def nextPetitionId (curPetitionId : Nat) : Nat × Nat :=
  let next := (curPetitionId + 1) % 2 ^ 32
  if curPetitionId = 0 then (next, (next + 1) % 2 ^ 32) else (curPetitionId, next)

def newPetition (petitionId playerIdByWhom playerIdWho numPlayers timeoutSec : Nat) : VoteKickData where
  petitionId := petitionId
  kickPlayerId := playerIdWho
  -- two thirds, rounded up
  numVotesToKick := (numPlayers * 2 + 2) / 3
  numVotesInFavourOfKicking := 1
  numVotesAgainstKicking := 0
  timeLimitSec := timeoutSec + SERVER_KICK_TIMEOUT_ADD_DELAY_SEC
  votedPlayerIds := [playerIdByWhom]

def internalAskVoteKick (s : ServerGame) (byWhom : Option Nat) (playerIdWho timeoutSec : Nat) :
    ServerGame × KickMessage :=
  match s.running, byWhom with
  | true, some playerIdByWhom =>
      if playerIdByWhom = playerIdWho then (s, .askKickDenied playerIdWho .cannotKickSelf)
      else if s.players.length > 2 then
        if s.isValidPlayer playerIdWho then
          match s.voteKickData with
          | none =>
              let (petitionId, curPetitionId) := nextPetitionId s.curPetitionId
              let data := newPetition petitionId playerIdByWhom playerIdWho s.players.length timeoutSec
              ({ s with curPetitionId, voteKickData := some data },
                .startKickPetition petitionId playerIdByWhom playerIdWho timeoutSec data.numVotesToKick)
          | some _ => (s, .askKickDenied playerIdWho .otherInProgress)
        else (s, .askKickDenied playerIdWho .invalidPlayerId)
      else (s, .askKickDenied playerIdWho .tooFewPlayers)
  | _, _ => (s, .askKickDenied playerIdWho .invalidState)

def addVote (data : VoteKickData) (playerId : Nat) : KickVote → VoteKickData
  | .inFavour =>
      { data with
        votedPlayerIds := data.votedPlayerIds ++ [playerId]
        numVotesInFavourOfKicking := data.numVotesInFavourOfKicking + 1 }
  | .against =>
      { data with
        votedPlayerIds := data.votedPlayerIds ++ [playerId]
        numVotesAgainstKicking := data.numVotesAgainstKicking + 1 }

def internalVoteKick (s : ServerGame) (byWhom : Option Nat) (petitionId : Nat) (vote : KickVote) :
    ServerGame × KickMessage :=
  match s.running, byWhom with
  | true, some playerId =>
      match s.voteKickData with
      | none => (s, .voteKickReply petitionId .invalidPetition)
      | some data =>
          if data.petitionId = petitionId then
            if data.votedPlayerIds.contains playerId then (s, .voteKickReply petitionId .alreadyVoted)
            else
              let data := addVote data playerId vote
              ({ s with voteKickData := some data },
                .kickPetitionUpdate petitionId data.numVotesAgainstKicking data.numVotesInFavourOfKicking
                  data.numVotesToKick)
          else (s, .voteKickReply petitionId .invalidPetition)
  | _, _ => (s, .voteKickReply petitionId .invalidPetition)

/-- Why the petition ends now, if it does. -/
def endPetitionReason (s : ServerGame) (data : VoteKickData) (elapsedSec : Nat) : Option EndPetitionReason :=
  let votesRequiredToKick := data.numVotesToKick - data.numVotesInFavourOfKicking
  let playersAllowedToVote := s.getPlayerIdList.countP fun id => ¬ data.votedPlayerIds.contains id
  if data.numVotesInFavourOfKicking ≥ data.numVotesToKick then some .enoughVotes
  else if votesRequiredToKick > playersAllowedToVote then some .notEnoughPlayers
  else if ¬ s.isValidPlayer data.kickPlayerId then some .playerLeft
  else if elapsedSec ≥ data.timeLimitSec then some .timeout
  else none

/-- `failed` says that the timer was cancelled, `isFinal` that the game is in its final state. -/
def timerVoteKick (s : ServerGame) (failed isFinal : Bool) (elapsedSec : Nat) : ServerGame × Option KickMessage :=
  if failed ∨ isFinal then (s, none)
  else
    match s.voteKickData with
    | none => (s, none)
    | some data =>
        match s.endPetitionReason data elapsedSec with
        | none => (s, none)
        | some reason =>
            let doKick := reason == .enoughVotes
            let s' := if doKick then s.kickPlayer data.kickPlayerId else s
            ({ s' with voteKickData := none },
              some (.endKickPetition data.petitionId data.numVotesAgainstKicking data.numVotesInFavourOfKicking
                doKick reason))

end ServerGame

end PokerTH.VoteKick
