import PokerTH.Runs
import Mathlib.Logic.Function.Basic

namespace PokerTH

inductive ActionType
  | nothing | warn | kick | kickban | mute
  deriving DecidableEq, Repr

inductive OffenceType
  | none | badWord | textFloodLines | capsFlood | letterRepeating | url
  deriving DecidableEq, Repr

def OffenceType.value : OffenceType → Nat
  | .none => 0
  | .badWord => 1
  | .textFloodLines => 2
  | .capsFlood => 3
  | .letterRepeating => 4
  | .url => 5

structure TextFloodInfos where
  floodLevel : Int
  timeStamp : Int
  deriving DecidableEq, Repr

structure TextFloodCheck where
  textFloodLevelToTrigger : Int
  msgTimesList : Nat → Option TextFloodInfos

namespace TextFloodCheck

variable (t : TextFloodCheck)

def put (playerId : Nat) (infos : Option TextFloodInfos) : TextFloodCheck :=
  { t with msgTimesList := Function.update t.msgTimesList playerId infos }

def run (playerId : Nat) (now : Int) : Bool × TextFloodCheck :=
  match t.msgTimesList playerId with
  | none => (false, t.put playerId (some ⟨0, now⟩))
  | some i =>
      if now - i.timeStamp ≤ 1 then
        if i.floodLevel = t.textFloodLevelToTrigger then (true, t.put playerId (some ⟨0, now⟩))
        else (false, t.put playerId (some ⟨i.floodLevel + 1, now⟩))
      else (false, t.put playerId (some ⟨i.floodLevel, now⟩))

def cleanMsgTimesList (now : Int) : TextFloodCheck :=
  { t with msgTimesList := fun playerId =>
      match t.msgTimesList playerId with
      | none => none
      | some i =>
          if now - i.timeStamp > 3 then
            if i.floodLevel = 0 then none else some ⟨max 0 (i.floodLevel - 1), i.timeStamp⟩
          else some i }

def removeNickFromList (playerId : Nat) : TextFloodCheck := t.put playerId none

end TextFloodCheck

structure ClientWarnInfos where
  nick : String
  lastWarnType : OffenceType
  warnLevel : Int
  deriving DecidableEq, Repr

structure ClientKickInfos where
  lastKickTimestamp : Int
  kickNumber : Int
  deriving DecidableEq, Repr

structure TextChecks where
  badWord : String → Bool
  capsFlood : String → Bool
  letterRepeating : String → Bool
  url : String → Bool

/-- What is read from the configuration. The time after which a kick is forgotten is read when it is needed. -/
structure FilterConfig where
  warnLevelToKick : Int
  kickNumberToBan : Int
  textFloodLevelToTrigger : Int
  checks : TextChecks

structure MessageFilter where
  checks : TextChecks
  myTextFloodCheck : TextFloodCheck
  myClientWarnLevelList : Nat → Option ClientWarnInfos
  myClientKickCounterList : String → Option ClientKickInfos
  warnLevelToKick : Int
  kickNumberToBan : Int

/-- A chat message, with the seconds that the timers of the filter and of the flood check show. -/
structure ChatMessage where
  gameId : Nat
  playerId : Nat
  nick : String
  msg : String
  now : Int
  floodNow : Int
  deriving DecidableEq, Repr

namespace MessageFilter

def create (checks : TextChecks) : MessageFilter where
  checks := checks
  myTextFloodCheck := ⟨3, fun _ => none⟩
  myClientWarnLevelList := fun _ => none
  myClientKickCounterList := fun _ => none
  warnLevelToKick := 3
  kickNumberToBan := 3

variable (f : MessageFilter)

/-- A later check replaces an offence of lower value. -/
def raiseOffence (found : Bool) (o offence : OffenceType) : OffenceType :=
  if found ∧ offence.value < o.value then o else offence

def offenceOf (msg : String) (flood : Bool) : OffenceType :=
  raiseOffence flood .textFloodLines
    (raiseOffence (f.checks.url msg) .url
      (raiseOffence (f.checks.letterRepeating msg) .letterRepeating
        (raiseOffence (f.checks.capsFlood msg) .capsFlood
          (if f.checks.badWord msg then .badWord else .none))))

def putWarn (playerId : Nat) (infos : Option ClientWarnInfos) : MessageFilter :=
  { f with myClientWarnLevelList := Function.update f.myClientWarnLevelList playerId infos }

def putKick (nick : String) (infos : Option ClientKickInfos) : MessageFilter :=
  { f with myClientKickCounterList := Function.update f.myClientKickCounterList nick infos }

def removePlayer (playerId : Nat) : MessageFilter :=
  { f with myTextFloodCheck := f.myTextFloodCheck.removeNickFromList playerId }.putWarn playerId none

/-- A kick is counted, and a ban ends the count. -/
def countKick (nick : String) (now : Int) : ActionType × MessageFilter :=
  match f.myClientKickCounterList nick with
  | none => (.kick, f.putKick nick (some ⟨now, 1⟩))
  | some j =>
      if j.kickNumber = f.kickNumberToBan then (.kickban, f.putKick nick none)
      else (.kick, f.putKick nick (some ⟨now, j.kickNumber + 1⟩))

def punish (m : ChatMessage) (offence : OffenceType) : ActionType × MessageFilter :=
  match f.myClientWarnLevelList m.playerId with
  | none => (.warn, f.putWarn m.playerId (some ⟨m.nick, offence, 1⟩))
  | some i =>
      if i.warnLevel = f.warnLevelToKick ∨ i.lastWarnType = offence then
        if m.gameId ≠ 0 then (.mute, f.removePlayer m.playerId)
        else (f.removePlayer m.playerId).countKick m.nick m.now
      else (.warn, f.putWarn m.playerId (some ⟨m.nick, offence, i.warnLevel + 1⟩))

def warning : OffenceType → String
  | .badWord => ": Warning! No racial, religious, sexually inflammatory or otherwise insulting language\n"
  | .textFloodLines => ": Warning! You've triggered text flood (lines) protection, slow down your typing!\n"
  | .capsFlood => ": Warning: You've triggered caps flood protection, release your caps!\n"
  | .letterRepeating => ": Warning: You've triggered letter repeating protection, stop repeating!\n"
  | .url => ": Warning: You've triggered url spam protection, stop posting urls!\n"
  | .none => ""

def returnMessage (nick : String) (offence : OffenceType) : ActionType → String
  | .nothing => ""
  | .warn => if offence = .none then "" else nick ++ warning offence
  | .kick => nick ++ " kicked! Please respect: https://chatrules.pokerth.net\n"
  | .kickban => nick ++ " kicked and banned! Please respect: https://chatrules.pokerth.net\n"
  | .mute => nick ++ " muted! Please respect: https://chatrules.pokerth.net\n"

def returnAction : ActionType → String
  | .nothing => ""
  | .warn => "warn"
  | .kick => "kick"
  | .kickban => "kickban"
  | .mute => "mute"

structure Verdict where
  message : ChatMessage
  offence : OffenceType
  action : ActionType
  returnList : String × String
  warnLevelToKick : Int
  kickNumberToBan : Int
  deriving DecidableEq, Repr

def check (m : ChatMessage) : Verdict × MessageFilter :=
  let (flood, floodCheck) := f.myTextFloodCheck.run m.playerId m.floodNow
  let offence := f.offenceOf m.msg flood
  let f' := { f with myTextFloodCheck := floodCheck }
  let (action, f') := if offence = .none then (.nothing, f') else f'.punish m offence
  (⟨m, offence, action, (returnAction action, returnMessage m.nick offence action), f.warnLevelToKick, f.kickNumberToBan⟩, f')

def refreshConfig (c : FilterConfig) : MessageFilter :=
  { f with
    checks := c.checks
    myTextFloodCheck := { f.myTextFloodCheck with textFloodLevelToTrigger := c.textFloodLevelToTrigger }
    warnLevelToKick := c.warnLevelToKick
    kickNumberToBan := c.kickNumberToBan }

/-- The kicks of a nick are forgotten when the last of them is old. -/
def cleanKickCounterList (now forgetSeconds : Int) : MessageFilter :=
  { f with myClientKickCounterList := fun nick =>
      (f.myClientKickCounterList nick).filter fun j => decide (now - j.lastKickTimestamp ≤ forgetSeconds) }

inductive Event
  | message (m : ChatMessage)
  | refreshConfig (c : FilterConfig)
  | cleanKickCounterList (now forgetSeconds : Int)
  | cleanMsgTimesList (now : Int)

/-- What a step tells: a verdict, or that old kicks are forgotten. -/
inductive Note
  | verdict (v : Verdict)
  | forgot (now forgetSeconds : Int)
  deriving DecidableEq, Repr

def fire : Event → List Note × MessageFilter
  | .message m => ([.verdict (f.check m).1], (f.check m).2)
  | .refreshConfig c => ([], f.refreshConfig c)
  | .cleanKickCounterList now forgetSeconds => ([.forgot now forgetSeconds], f.cleanKickCounterList now forgetSeconds)
  | .cleanMsgTimesList now => ([], { f with myTextFloodCheck := f.myTextFloodCheck.cleanMsgTimesList now })

def notes : MessageFilter → List Event → List Note
  | _, [] => []
  | f, e :: es => (f.fire e).1 ++ notes (f.fire e).2 es

end MessageFilter

end PokerTH
