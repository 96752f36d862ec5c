import PokerTH.Lists
import PokerTH.Cyclic
import PokerTH.Runs
import PokerTH.Defs
import PokerTH.Player
import PokerTH.Board
import PokerTH.Payment
import PokerTH.Distribute
import PokerTH.SidePots
import PokerTH.Splitting
import PokerTH.Entitlement
import PokerTH.Hand
import PokerTH.Game
import PokerTH.BeRo
import PokerTH.ServerHand
import PokerTH.Frame
import PokerTH.Perform
import PokerTH.BettingLimits
import PokerTH.HandRun
import PokerTH.Chips
import PokerTH.EngineLoop
import PokerTH.Conservation
import PokerTH.HandStart
import PokerTH.WholeHand
import PokerTH.LimitsRun
import PokerTH.RunningList
import PokerTH.Turn
import PokerTH.FirstRound
import PokerTH.Stacks
import PokerTH.Asking
import PokerTH.TurnOrder
import PokerTH.TurnOrderRun
import PokerTH.TurnPasses
import PokerTH.BlindSeats
import PokerTH.Poised
import PokerTH.LoopReturns
import PokerTH.EngineReturns
import PokerTH.RunOut
import PokerTH.RunOutFair
import PokerTH.TurnHistory
import PokerTH.TurnHistoryRun
import PokerTH.Computer
import PokerTH.ComputerRaise
import PokerTH.ComputerEngines
import PokerTH.MinimumRaise
import PokerTH.ServerGame
import PokerTH.Hosting
import PokerTH.Progress
import PokerTH.NewHand
import PokerTH.BlindSchedule
import PokerTH.GameDataWire
import PokerTH.AvatarPackets
import PokerTH.ComputerMoves
import PokerTH.PreflopDecision
import PokerTH.CardsPositions
import PokerTH.CardsBounds
import PokerTH.CardsGreatest
import PokerTH.CardsPairs
import PokerTH.CardsBest
import PokerTH.CardsOrder
import PokerTH.CardsStrength
import PokerTH.Beaten
import PokerTH.Dealing
import PokerTH.GameNames
import PokerTH.GameMap
import PokerTH.BanManager
import PokerTH.BanRun
import PokerTH.GameList
import PokerTH.GameListRun
import PokerTH.GameListViews
import PokerTH.Assoc
import PokerTH.ChatRate
import PokerTH.HandsApart
import PokerTH.Packets
import PokerTH.Admin
import PokerTH.Kin
import PokerTH.Credential
import PokerTH.Rejoining
import PokerTH.SeatIds
import PokerTH.ClientHand
import PokerTH.HandMessages
import PokerTH.FoldMarks
import PokerTH.ClientFolds
import PokerTH.FoldHistory
import PokerTH.Lobby
import PokerTH.LobbyRun
import PokerTH.FailedLogins
import PokerTH.Login
import PokerTH.Framing
import PokerTH.ReceiveBuffer
import PokerTH.Chunks
import PokerTH.SendBuffer
import PokerTH.RoundTrip
import PokerTH.Ranking
import PokerTH.RankingUpdate
import PokerTH.RankingRun
import PokerTH.RankingOrder
import PokerTH.Buttons
import PokerTH.VoteKick
import PokerTH.VoteKickRun
import PokerTH.GameSessions
import PokerTH.Bookkeeping
import PokerTH.Places
import PokerTH.SessionMoves
import PokerTH.SessionSteps
import PokerTH.Registered
import PokerTH.Names
import PokerTH.SessionsRun
import PokerTH.CleanerServer
import PokerTH.CleanerRun
import PokerTH.MessageFilter
import PokerTH.MessageFilterRun
import PokerTH.Decimal
import PokerTH.CryptHelper
import PokerTH.HoleCards
import PokerTH.HoleCardsRun
import PokerTH.ClientLimits
import PokerTH.LimitsHistory
import PokerTH.RejoinTable
import PokerTH.TakenSeats
import PokerTH.RejoinHand
import PokerTH.ClientSchedule
import PokerTH.RejoinRun
import PokerTH.HandNames
import PokerTH.HandTitles
import PokerTH.ValidSettings
import PokerTH.WholeGame
import PokerTH.SessionTimers
import PokerTH.RankLimit
