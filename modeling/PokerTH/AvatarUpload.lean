import Mathlib.Algebra.GroupWithZero.Nat
import PokerTH.Bookkeeping

namespace PokerTH.Lobby

abbrev Bytes := List UInt8

/-- A hash as a number. The zero hash is none. -/
abbrev MD5Buf := Nat

inductive AvatarFileType
  | unknown | png | jpg | gif
  deriving DecidableEq, Repr

/-- The types are numbered from 0. -/
def AvatarFileType.ofRawType : Nat → AvatarFileType
  | 1 => .png
  | 2 => .jpg
  | 3 => .gif
  | _ => .unknown

def AvatarFileType.rawType : AvatarFileType → Nat
  | .unknown => 0
  | .png => 1
  | .jpg => 2
  | .gif => 3

@[simp] theorem AvatarFileType.ofRawType_rawType (t : AvatarFileType) : ofRawType t.rawType = t := by cases t <;> rfl

def PNG_HEADER : Bytes := [0x89, 0x50, 0x4e, 0x47, 0x0d, 0x0a, 0x1a, 0x0a]

def JPG_HEADER : Bytes := [0xff, 0xd8]

def GIF_HEADER_1 : Bytes := [0x47, 0x49, 0x46, 0x38, 0x37, 0x61]

def GIF_HEADER_2 : Bytes := [0x47, 0x49, 0x46, 0x38, 0x39, 0x61]

def MAX_HEADER_SIZE : Nat := PNG_HEADER.length

def MAX_FILE_DATA_SIZE : Nat := 256

/-- What becomes of a file that is written: it cannot be opened, it is not written in full and removed again, or it
is there. -/
inductive DiskOutcome
  | denied | failed | written
  deriving DecidableEq, Repr

/-- The avatars that the server keeps. A file of the cache directory is named by a hash and an extension. -/
structure AvatarManager where
  cacheDirSet : Bool
  files : MD5Buf × String → Option Bytes
  cachedAvatars : MD5Buf → Option String

namespace AvatarManager

def getAvatarFileExtension : AvatarFileType → String
  | .png => ".png"
  | .jpg => ".jpg"
  | .gif => ".gif"
  | .unknown => ""

def startsWith (fileHeader header : Bytes) : Bool :=
  decide (fileHeader.length ≥ header.length) && fileHeader.take header.length == header

def isValidAvatarFileType (avatarFileType : AvatarFileType) (fileHeader : Bytes) : Bool :=
  match avatarFileType with
  | .png => startsWith fileHeader PNG_HEADER
  | .jpg => startsWith fileHeader JPG_HEADER
  | .gif => startsWith fileHeader GIF_HEADER_1 || startsWith fileHeader GIF_HEADER_2
  | .unknown => false

/-- The file is written even if there is one of this name. The list keeps the entry it has for a hash. -/
def storeAvatarInCache (disk : DiskOutcome) (m : AvatarManager) (md5buf : MD5Buf) (avatarFileType : AvatarFileType)
    (data : Bytes) : Bool × AvatarManager :=
  let ext := getAvatarFileExtension avatarFileType
  if data.length = 0 ∨ data.length > MAX_AVATAR_FILE_SIZE then (false, m)
  else if ext ≠ "" ∧ m.cacheDirSet ∧ isValidAvatarFileType avatarFileType data then
    match disk with
    | .denied => (false, m)
    | .failed => (false, { m with files := Function.update m.files (md5buf, ext) none })
    | .written => (true, { m with
        files := Function.update m.files (md5buf, ext) (some data)
        cachedAvatars := Function.update m.cachedAvatars md5buf (some ((m.cachedAvatars md5buf).getD ext)) })
  else (false, m)

end AvatarManager

inductive AvatarMsg
  | init (m : InitMessage)
  | avatarHeader (avatarSize avatarType : Nat)
  | unknownAvatar
  | avatarData (avatarBlock : Bytes)
  | avatarEnd

def AvatarMsg.toMsg : AvatarMsg → Msg
  | .init m => .init m
  | .avatarHeader avatarSize avatarType => .avatarHeader avatarSize avatarType
  | .unknownAvatar => .unknownAvatar
  | .avatarData avatarBlock => .avatarData avatarBlock.length
  | .avatarEnd => .avatarEnd

/-- The lobby with its avatar manager. The lobby counts the bytes of the avatar that a session uploads, here they are with
the type of the file. -/
structure AvatarServer where
  lobby : ServerLobbyThread
  fileData : SessionId → Bytes
  fileType : SessionId → AvatarFileType
  avatarManager : AvatarManager

namespace AvatarServer

variable (c : ServerConfig) (env : Environment) (disk : DiskOutcome) (w : AvatarServer)

def handleNetPacketAvatarHeader (sid : SessionId) (s : SessionData) (avatarSize avatarType : Nat) : AvatarServer :=
  if s.playerData.isSome ∧ MIN_AVATAR_FILE_SIZE ≤ avatarSize ∧ avatarSize ≤ MAX_AVATAR_FILE_SIZE ∧
      ¬ avatarType > AVATAR_FILE_TYPE_GIF then
    { w with
      fileData := Function.update w.fileData sid []
      fileType := Function.update w.fileType sid (.ofRawType avatarType) }
  else w

def handleNetPacketAvatarFile (sid : SessionId) (s : SessionData) (avatarBlock : Bytes) : AvatarServer :=
  match s.playerData.bind fun p => p.netAvatarFile with
  | none => w
  | some file =>
      if avatarBlock.length = 0 ∨ avatarBlock.length > MAX_AVATAR_FILE_SIZE ∨
          file.fileSize > MAX_AVATAR_FILE_SIZE - avatarBlock.length ∨
          file.fileSize + avatarBlock.length > file.reportedSize then w
      else { w with fileData := Function.update w.fileData sid (w.fileData sid ++ avatarBlock) }

def storedUnder (s : SessionData) : Option MD5Buf :=
  match s.playerData with
  | none => none
  | some p => if ServerLobbyThread.receivedAvatar p then p.avatarMD5 else none

def handleNetPacketAvatarEnd (sid : SessionId) (s : SessionData) : Bool × AvatarServer :=
  match storedUnder s with
  | none => (false, w)
  | some avatarMD5 =>
      let (stored, avatarManager) :=
        w.avatarManager.storeAvatarInCache disk avatarMD5 (w.fileType sid) (w.fileData sid)
      (stored, { w with avatarManager })

def handleBytes (sid : SessionId) (s : SessionData) (msg : AvatarMsg) : Bool × AvatarServer :=
  match s.state, msg with
  | .init, .avatarHeader avatarSize avatarType => (false, w.handleNetPacketAvatarHeader sid s avatarSize avatarType)
  | .receivingAvatar, .avatarData avatarBlock => (false, w.handleNetPacketAvatarFile sid s avatarBlock)
  | .receivingAvatar, .avatarEnd => w.handleNetPacketAvatarEnd disk sid s
  | _, _ => (false, w)

def handlePacket (sid : SessionId) (s : SessionData) (msg : AvatarMsg) : AvatarServer :=
  let (stored, w') := w.handleBytes disk sid s msg
  { w' with lobby := w.lobby.handlePacket c { env with storeAvatarInCache := stored } sid s msg.toMsg }

def dispatchPacket (sid : SessionId) (msg : AvatarMsg) : AvatarServer :=
  match w.lobby.sessions sid with
  | none => w
  | some s => if s.game.isSome then w else w.handlePacket c env disk sid s msg

end AvatarServer

/-- The blocks that are read from a file until none is left. -/
def chunkReads (data : Bytes) : List Bytes :=
  if data = [] then [] else data.take MAX_FILE_DATA_SIZE :: chunkReads (data.drop MAX_FILE_DATA_SIZE)
termination_by data.length
decreasing_by
  rename_i hne
  have hpos := List.length_pos_iff.mpr hne
  rw [List.length_drop, MAX_FILE_DATA_SIZE]
  omega

namespace AvatarManager

def openAvatarFileForChunkRead (data : Bytes) (fileType : AvatarFileType) : Bool :=
  decide (MIN_AVATAR_FILE_SIZE ≤ data.length) && decide (data.length ≤ MAX_AVATAR_FILE_SIZE) &&
    isValidAvatarFileType fileType (data.take MAX_HEADER_SIZE)

/-- The packets of a file with these bytes, whose name has the extension of this type. -/
def avatarFileToNetPackets (data : Bytes) (fileType : AvatarFileType) : Option (List AvatarMsg) :=
  if openAvatarFileForChunkRead data fileType ∧ fileType ≠ .unknown then
    let blocks := chunkReads data
    if data.length ≠ (blocks.map List.length).sum then none
    else some (.avatarHeader data.length fileType.rawType :: blocks.map AvatarMsg.avatarData ++ [.avatarEnd])
  else none

end AvatarManager

end PokerTH.Lobby
