import PokerTH.AvatarSessions
import PokerTH.Runs

namespace PokerTH.Lobby

/-- What happens to avatars. A message is received from a session that is not in a game. -/
inductive AvatarNote
  | received (sid : SessionId) (msg : AvatarMsg)
  | stored (md5buf : MD5Buf) (avatarFileType : AvatarFileType) (data : Bytes)

def AvatarNote.msgOf (sid : SessionId) : AvatarNote → Option AvatarMsg
  | .received sid' msg => if sid' = sid then some msg else none
  | .stored _ _ _ => none

def received (sid : SessionId) (hist : List AvatarNote) : List AvatarMsg := hist.filterMap (AvatarNote.msgOf sid)

def claimed (msgs : List AvatarMsg) : Option MD5Buf :=
  msgs.foldl (fun md5 msg => match msg with
    | .init m => m.avatarHash
    | _ => md5) none

structure Upload where
  reportedSize : Nat
  avatarType : Nat
  data : Bytes

def upload (msgs : List AvatarMsg) : Option Upload :=
  msgs.foldl (fun u msg => match msg with
    | .avatarHeader avatarSize avatarType => some ⟨avatarSize, avatarType, []⟩
    | .avatarData avatarBlock => u.map fun u => { u with data := u.data ++ avatarBlock }
    | _ => u) none

namespace AvatarServer

def storedNotes (disk : DiskOutcome) (w : AvatarServer) (sid : SessionId) (s : SessionData) (msg : AvatarMsg) :
    List AvatarNote :=
  if (w.handleBytes disk sid s msg).1 then
    match storedUnder s with
    | none => []
    | some md5buf => [.stored md5buf (w.fileType sid) (w.fileData sid)]
  else []

/-- The steps of the server with what they tell of avatars. Everything else that happens in the lobby is an event of it. -/
inductive Step (c : ServerConfig) : AvatarServer → List AvatarNote → AvatarServer → Prop
  | packet {w : AvatarServer} {sid : SessionId} {s : SessionData} {msg : AvatarMsg} {env : Environment}
      {disk : DiskOutcome} (hs : w.lobby.sessions sid = some s) (hgame : s.game = none) :
      Step c w (.received sid msg :: w.storedNotes disk sid s msg) (w.handlePacket c env disk sid s msg)
  | event {w : AvatarServer} {e : Event} {l' : ServerLobbyThread} (he : e.ofAvatar = false)
      (hfire : w.lobby.fire c e = some l') : Step c w [] { w with lobby := l' }

def initial (m : AvatarManager) : AvatarServer := ⟨.initial, fun _ => [], fun _ => .unknown, m⟩

end AvatarServer

/-- An avatar that is stored is the complete upload of a session since its last header, of the size and type that the
header reports, under the hash that the session's last `Init` names. -/
def Uploaded (hist : List AvatarNote) (note : AvatarNote) : Prop :=
  ∀ md5buf avatarFileType data, note = .stored md5buf avatarFileType data →
    ∃ sid u, claimed (received sid hist) = some md5buf ∧ upload (received sid hist) = some u ∧ data = u.data ∧
      data.length = u.reportedSize ∧ MIN_AVATAR_FILE_SIZE ≤ data.length ∧ data.length ≤ MAX_AVATAR_FILE_SIZE ∧
      avatarFileType = .ofRawType u.avatarType ∧ AvatarManager.isValidAvatarFileType avatarFileType data

variable {c : ServerConfig} {env : Environment} {sid sid' : SessionId} {s s' : SessionData} {p : PlayerData}

/-- What a session that is logging in holds of the messages it has sent: its hash is the one that it claims, its avatar file
is its upload. -/
structure Tracks (msgs : List AvatarMsg) (s : SessionData) (data : Bytes) (avatarFileType : AvatarFileType) : Prop where
  hash : ∀ p md5buf, s.playerData = some p → p.avatarMD5 = some md5buf → claimed msgs = some md5buf
  file : s.state = .receivingAvatar → ∀ p file, s.playerData = some p → p.netAvatarFile = some file →
    ∃ avatarType, upload msgs = some ⟨file.reportedSize, avatarType, data⟩ ∧ avatarFileType = .ofRawType avatarType ∧
      file.fileSize = data.length ∧ MIN_AVATAR_FILE_SIZE ≤ file.reportedSize ∧ file.reportedSize ≤ MAX_AVATAR_FILE_SIZE

variable {msgs : List AvatarMsg} {msg : AvatarMsg} {data : Bytes} {avatarFileType : AvatarFileType}

theorem Tracks.congr (ht : Tracks msgs s data avatarFileType) (hstate : s'.state = s.state)
    (hplayer : s'.playerData = s.playerData) : Tracks msgs s' data avatarFileType := by
  refine ⟨?_, ?_⟩
  · rw [hplayer]
    exact ht.hash
  · rw [hplayer, hstate]
    exact ht.file

theorem Tracks.of_none (hnone : s.playerData = none) : Tracks msgs s data avatarFileType := by
  refine ⟨fun p md5buf hp _ => ?_, fun _ p file hp _ => ?_⟩
  · rw [hnone] at hp
    cases hp
  · rw [hnone] at hp
    cases hp

@[simp] theorem claimed_init (msgs : List AvatarMsg) (m : InitMessage) : claimed (msgs ++ [.init m]) = m.avatarHash := by
  simp [claimed, List.foldl_append]

@[simp] theorem claimed_avatarHeader (msgs : List AvatarMsg) (avatarSize avatarType : Nat) :
    claimed (msgs ++ [.avatarHeader avatarSize avatarType]) = claimed msgs := by
  simp [claimed, List.foldl_append]

@[simp] theorem claimed_avatarData (msgs : List AvatarMsg) (avatarBlock : Bytes) :
    claimed (msgs ++ [.avatarData avatarBlock]) = claimed msgs := by
  simp [claimed, List.foldl_append]

@[simp] theorem claimed_avatarEnd (msgs : List AvatarMsg) : claimed (msgs ++ [.avatarEnd]) = claimed msgs := by
  simp [claimed, List.foldl_append]

@[simp] theorem upload_avatarHeader (msgs : List AvatarMsg) (avatarSize avatarType : Nat) :
    upload (msgs ++ [.avatarHeader avatarSize avatarType]) = some ⟨avatarSize, avatarType, []⟩ := by
  simp [upload, List.foldl_append]

@[simp] theorem upload_avatarData (msgs : List AvatarMsg) (avatarBlock : Bytes) :
    upload (msgs ++ [.avatarData avatarBlock]) =
      (upload msgs).map fun u => { u with data := u.data ++ avatarBlock } := by
  simp [upload, List.foldl_append]

@[simp] theorem upload_avatarEnd (msgs : List AvatarMsg) : upload (msgs ++ [.avatarEnd]) = upload msgs := by
  simp [upload, List.foldl_append]

namespace AvatarServer

variable {w w' : AvatarServer} {disk : DiskOutcome} {hist : List AvatarNote} {notes : List AvatarNote}

theorem handlePacket_lobby (w : AvatarServer) : (w.handlePacket c env disk sid s msg).lobby =
    w.lobby.handlePacket c { env with storeAvatarInCache := (w.handleBytes disk sid s msg).1 } sid s msg.toMsg := rfl

theorem handlePacket_other (w : AvatarServer) (hne : sid' ≠ sid) :
    (w.handlePacket c env disk sid s msg).fileData sid' = w.fileData sid' ∧
      (w.handlePacket c env disk sid s msg).fileType sid' = w.fileType sid' := by
  simp only [handlePacket, handleBytes]
  split
  · simp only [handleNetPacketAvatarHeader]
    split_ifs
    · exact ⟨Function.update_of_ne hne _ _, Function.update_of_ne hne _ _⟩
    · exact ⟨rfl, rfl⟩
  · simp only [handleNetPacketAvatarFile]
    split
    · exact ⟨rfl, rfl⟩
    · split_ifs
      · exact ⟨rfl, rfl⟩
      · exact ⟨Function.update_of_ne hne _ _, rfl⟩
  · simp only [handleNetPacketAvatarEnd]
    split <;> exact ⟨rfl, rfl⟩
  · exact ⟨rfl, rfl⟩

theorem handlePacket_header {avatarSize avatarType : Nat} (w : AvatarServer) (hstate : s.state = .init)
    (hp : s.playerData = some p) (hsize : MIN_AVATAR_FILE_SIZE ≤ avatarSize ∧ avatarSize ≤ MAX_AVATAR_FILE_SIZE)
    (htype : ¬ avatarType > AVATAR_FILE_TYPE_GIF) :
    w.handlePacket c env disk sid s (.avatarHeader avatarSize avatarType) =
      { w with
        lobby := w.lobby.setSession sid { s with
          state := .receivingAvatar
          playerData := some { p with netAvatarFile := some ⟨avatarSize, 0⟩ } }
        fileData := Function.update w.fileData sid []
        fileType := Function.update w.fileType sid (.ofRawType avatarType) } := by
  simp [handlePacket, handleBytes, hstate, handleNetPacketAvatarHeader, hp, hsize, htype, AvatarMsg.toMsg,
    ServerLobbyThread.handlePacket, ServerLobbyThread.handleNetPacketAvatarHeader]

theorem handlePacket_block {file : AvatarFile} {avatarBlock : Bytes} (w : AvatarServer) (hstate : s.state = .receivingAvatar)
    (hp : s.playerData = some p) (hfile : p.netAvatarFile = some file) (hne : avatarBlock.length ≠ 0)
    (hroom : file.fileSize + avatarBlock.length ≤ file.reportedSize) (hmax : file.reportedSize ≤ MAX_AVATAR_FILE_SIZE) :
    w.handlePacket c env disk sid s (.avatarData avatarBlock) =
      { w with
        lobby := w.lobby.setSession sid { s with playerData := some { p with
          netAvatarFile := some { file with fileSize := file.fileSize + avatarBlock.length } } }
        fileData := Function.update w.fileData sid (w.fileData sid ++ avatarBlock) } := by
  have hfits : ¬ (avatarBlock.length > MAX_AVATAR_FILE_SIZE ∨ file.fileSize > MAX_AVATAR_FILE_SIZE - avatarBlock.length) := by
    omega
  have hroom' : ¬ file.fileSize + avatarBlock.length > file.reportedSize := by omega
  have hbytes : w.handleNetPacketAvatarFile sid s avatarBlock =
      { w with fileData := Function.update w.fileData sid (w.fileData sid ++ avatarBlock) } := by
    rw [handleNetPacketAvatarFile, hp, Option.bind_some, hfile]
    dsimp only
    rw [if_neg (by omega)]
  simp only [handlePacket, handleBytes, hstate, hbytes, AvatarMsg.toMsg, ServerLobbyThread.handlePacket,
    ServerLobbyThread.handleNetPacketAvatarFile, hp, hfile, if_neg hne, if_neg hfits, if_neg hroom']

theorem tracks_avatarHeader {avatarSize avatarType : Nat} (hstate : s.state = .init)
    (ht : Tracks msgs s (w.fileData sid) (w.fileType sid))
    (hs' : (w.handlePacket c env disk sid s (.avatarHeader avatarSize avatarType)).lobby.sessions sid = some s')
    (hs : w.lobby.sessions sid = some s) (hopen : Unfinished s') :
    Tracks (msgs ++ [.avatarHeader avatarSize avatarType]) s'
      ((w.handlePacket c env disk sid s (.avatarHeader avatarSize avatarType)).fileData sid)
      ((w.handlePacket c env disk sid s (.avatarHeader avatarSize avatarType)).fileType sid) := by
  have hlobby : (w.handlePacket c env disk sid s (.avatarHeader avatarSize avatarType)).lobby =
      w.lobby.handleNetPacketAvatarHeader sid s avatarSize avatarType := by
    simp [handlePacket_lobby, ServerLobbyThread.handlePacket, AvatarMsg.toMsg, hstate]
  cases hp : s.playerData with
  | none =>
      rw [hlobby, ServerLobbyThread.handleNetPacketAvatarHeader, hp, hs] at hs'
      cases hs'
      exact .of_none hp
  | some p =>
      by_cases htaken : (MIN_AVATAR_FILE_SIZE ≤ avatarSize ∧ avatarSize ≤ MAX_AVATAR_FILE_SIZE) ∧
          ¬ avatarType > AVATAR_FILE_TYPE_GIF
      · rw [handlePacket_header w hstate hp htaken.1 htaken.2] at hs' ⊢
        cases (ServerLobbyThread.setSession_self w.lobby sid _).symm.trans hs'
        dsimp only
        rw [Function.update_self, Function.update_self]
        refine ⟨fun q md5buf hq hmd5 => ?_, fun _ q file hq hfile => ?_⟩
        · cases hq
          rw [claimed_avatarHeader]
          exact ht.hash p md5buf hp hmd5
        · cases hq
          cases hfile
          exact ⟨avatarType, upload_avatarHeader msgs avatarSize avatarType, rfl, rfl, htaken.1⟩
      · have herror : w.lobby.handleNetPacketAvatarHeader sid s avatarSize avatarType = w.lobby.sessionError sid := by
          rw [ServerLobbyThread.handleNetPacketAvatarHeader, hp]
          dsimp only
          split_ifs with hsize htype
          · rfl
          · exact absurd ⟨hsize, htype⟩ htaken
          · rfl
        rw [hlobby, herror] at hs'
        exact absurd hopen (ServerLobbyThread.finished_closeSession hs')

theorem tracks_avatarData {avatarBlock : Bytes} (hstate : s.state = .receivingAvatar)
    (ht : Tracks msgs s (w.fileData sid) (w.fileType sid))
    (hs' : (w.handlePacket c env disk sid s (.avatarData avatarBlock)).lobby.sessions sid = some s')
    (hs : w.lobby.sessions sid = some s) (hopen : Unfinished s') :
    Tracks (msgs ++ [.avatarData avatarBlock]) s'
      ((w.handlePacket c env disk sid s (.avatarData avatarBlock)).fileData sid)
      ((w.handlePacket c env disk sid s (.avatarData avatarBlock)).fileType sid) := by
  have hlobby : (w.handlePacket c env disk sid s (.avatarData avatarBlock)).lobby =
      w.lobby.handleNetPacketAvatarFile sid s avatarBlock.length := by
    simp [handlePacket_lobby, ServerLobbyThread.handlePacket, AvatarMsg.toMsg, hstate]
  cases hp : s.playerData with
  | none =>
      rw [hlobby, ServerLobbyThread.handleNetPacketAvatarFile, hp, hs] at hs'
      cases hs'
      exact .of_none hp
  | some p =>
      cases hfile : p.netAvatarFile with
      | none =>
          rw [hlobby, ServerLobbyThread.handleNetPacketAvatarFile, hp] at hs'
          simp only [hfile] at hs'
          exact absurd hopen (ServerLobbyThread.finished_closeSession hs')
      | some file =>
          obtain ⟨avatarType, hupload, htype, hcount, hmin, hmax⟩ := ht.file hstate p file hp hfile
          by_cases hempty : avatarBlock.length = 0
          · have hbytes : w.handleNetPacketAvatarFile sid s avatarBlock = w := by
              rw [handleNetPacketAvatarFile, hp, Option.bind_some, hfile]
              exact if_pos (.inl hempty)
            have hnoted : w.handlePacket c env disk sid s (.avatarData avatarBlock) = w := by
              simp only [handlePacket, handleBytes, hstate, hbytes, AvatarMsg.toMsg, ServerLobbyThread.handlePacket,
                ServerLobbyThread.handleNetPacketAvatarFile, hp, hfile, if_pos hempty]
            rw [hnoted, hs] at hs'
            cases hs'
            rw [hnoted, List.length_eq_zero_iff.mp hempty]
            refine ⟨fun q md5buf hq hmd5 => ?_, fun hreceiving q file' hq hfile' => ?_⟩
            · rw [claimed_avatarData]
              exact ht.hash q md5buf hq hmd5
            · obtain ⟨avatarType', hupload', hrest⟩ := ht.file hreceiving q file' hq hfile'
              exact ⟨avatarType', by simp [hupload'], hrest⟩
          · by_cases hroom : file.fileSize + avatarBlock.length ≤ file.reportedSize
            · rw [handlePacket_block w hstate hp hfile hempty hroom hmax] at hs' ⊢
              cases (ServerLobbyThread.setSession_self w.lobby sid _).symm.trans hs'
              dsimp only
              rw [Function.update_self]
              refine ⟨fun q md5buf hq hmd5 => ?_, fun _ q file' hq hfile' => ?_⟩
              · cases hq
                rw [claimed_avatarData]
                exact ht.hash p md5buf hp hmd5
              · cases hq
                cases hfile'
                refine ⟨avatarType, by simp [hupload], htype, ?_, hmin, hmax⟩
                rw [hcount, List.length_append]
            · have herror : w.lobby.handleNetPacketAvatarFile sid s avatarBlock.length = w.lobby.sessionError sid := by
                rw [ServerLobbyThread.handleNetPacketAvatarFile, hp]
                simp only [hfile, if_neg hempty]
                split_ifs
                · rfl
                · rfl
                · omega
              rw [hlobby, herror] at hs'
              exact absurd hopen (ServerLobbyThread.finished_closeSession hs')

theorem tracks_handlePacket (hs : w.lobby.sessions sid = some s)
    (ht : Unfinished s → Tracks msgs s (w.fileData sid) (w.fileType sid))
    (hs' : (w.handlePacket c env disk sid s msg).lobby.sessions sid = some s') (hopen : Unfinished s') :
    Tracks (msgs ++ [msg]) s' ((w.handlePacket c env disk sid s msg).fileData sid)
      ((w.handlePacket c env disk sid s msg).fileType sid) := by
  have hclosed (hlobby : (w.handlePacket c env disk sid s msg).lobby = w.lobby.sessionError sid) : False := by
    rw [hlobby] at hs'
    exact ServerLobbyThread.finished_closeSession hs' hopen
  cases hstate : s.state with
  | init =>
      cases msg with
      | init m =>
          have hlobby : (w.handlePacket c env disk sid s (.init m)).lobby =
              w.lobby.handleNetPacketInit c { env with storeAvatarInCache := false } sid s m := by
            simp [handlePacket_lobby, handleBytes, ServerLobbyThread.handlePacket, AvatarMsg.toMsg, hstate]
          rw [hlobby] at hs'
          obtain ⟨hsame, p, hp, hhash, _⟩ := ServerLobbyThread.handleNetPacketInit_session hs' hopen
          refine ⟨fun q md5buf hq hmd5 => ?_, fun hreceiving => ?_⟩
          · rw [hp] at hq
            cases hq
            rw [claimed_init, ← hhash, hmd5]
          · rw [hsame, hstate] at hreceiving
            cases hreceiving
      | avatarHeader avatarSize avatarType => exact tracks_avatarHeader hstate (ht (.inl hstate)) hs' hs hopen
      | unknownAvatar =>
          rw [handlePacket_lobby] at hs'
          simp only [ServerLobbyThread.handlePacket, AvatarMsg.toMsg, hstate,
            ServerLobbyThread.handleNetPacketUnknownAvatar] at hs'
          split at hs'
          · next hp =>
              rw [hs] at hs'
              cases hs'
              exact .of_none hp
          · exact absurd hopen (ServerLobbyThread.finished_establishSession hs')
      | avatarData avatarBlock =>
          exact (hclosed (by simp [handlePacket_lobby, ServerLobbyThread.handlePacket, AvatarMsg.toMsg, hstate])).elim
      | avatarEnd =>
          exact (hclosed (by simp [handlePacket_lobby, ServerLobbyThread.handlePacket, AvatarMsg.toMsg, hstate])).elim
  | receivingAvatar =>
      cases msg with
      | init m =>
          exact (hclosed (by simp [handlePacket_lobby, ServerLobbyThread.handlePacket, AvatarMsg.toMsg, hstate])).elim
      | avatarHeader avatarSize avatarType =>
          exact (hclosed (by simp [handlePacket_lobby, ServerLobbyThread.handlePacket, AvatarMsg.toMsg, hstate])).elim
      | unknownAvatar =>
          exact (hclosed (by simp [handlePacket_lobby, ServerLobbyThread.handlePacket, AvatarMsg.toMsg, hstate])).elim
      | avatarData avatarBlock => exact tracks_avatarData hstate (ht (.inr hstate)) hs' hs hopen
      | avatarEnd =>
          rw [handlePacket_lobby] at hs'
          simp only [ServerLobbyThread.handlePacket, AvatarMsg.toMsg, hstate,
            ServerLobbyThread.handleNetPacketAvatarEnd] at hs'
          split at hs'
          · next hp =>
              rw [hs] at hs'
              cases hs'
              exact .of_none hp
          · split at hs'
            · exact absurd hopen (ServerLobbyThread.finished_establishSession hs')
            · exact absurd hopen (ServerLobbyThread.finished_closeSession hs')
  | established =>
      refine (hclosed ?_).elim
      cases msg <;> simp [handlePacket_lobby, ServerLobbyThread.handlePacket, AvatarMsg.toMsg, hstate]
  | game =>
      refine (hclosed ?_).elim
      cases msg <;> simp [handlePacket_lobby, ServerLobbyThread.handlePacket, AvatarMsg.toMsg, hstate]
  | closed =>
      refine (hclosed ?_).elim
      cases msg <;> simp [handlePacket_lobby, ServerLobbyThread.handlePacket, AvatarMsg.toMsg, hstate]

def Kept (hist : List AvatarNote) (w : AvatarServer) : Prop :=
  ∀ sid s, w.lobby.sessions sid = some s → Unfinished s →
    Tracks (received sid hist) s (w.fileData sid) (w.fileType sid)

theorem received_storedNotes (sid' : SessionId) : received sid' (w.storedNotes disk sid s msg) = [] := by
  simp only [storedNotes]
  split_ifs
  · split <;> rfl
  · rfl

theorem received_self : received sid (hist ++ .received sid msg :: w.storedNotes disk sid s msg) =
    received sid hist ++ [msg] := by
  rw [received, List.filterMap_append, List.filterMap_cons_some (b := msg) (by simp [AvatarNote.msgOf])]
  exact congrArg (fun l => received sid hist ++ msg :: l) (received_storedNotes sid)

theorem received_ne (hne : sid' ≠ sid) : received sid' (hist ++ .received sid msg :: w.storedNotes disk sid s msg) =
    received sid' hist := by
  rw [received, List.filterMap_append, List.filterMap_cons_none (by simp [AvatarNote.msgOf, hne.symm])]
  exact (congrArg (received sid' hist ++ ·) (received_storedNotes sid')).trans (List.append_nil _)

theorem Kept.step (hk : Kept hist w) (hstep : Step c w notes w') : Kept (hist ++ notes) w' := by
  cases hstep with
  | @packet sid s msg env disk hs hgame =>
      intro sid' s' hs' hopen
      by_cases hsid : sid' = sid
      · subst hsid
        rw [received_self]
        exact tracks_handlePacket hs (hk sid' s hs) hs' hopen
      · obtain ⟨hdata, htype⟩ : (w.handlePacket c env disk sid s msg).fileData sid' = w.fileData sid' ∧
            (w.handlePacket c env disk sid s msg).fileType sid' = w.fileType sid' := handlePacket_other w hsid
        obtain ⟨t, ht, hstate, hplayer⟩ := ServerLobbyThread.calm_avatarMsg w.lobby sid s msg sid' s' hsid hs' hopen
        have hopen' : Unfinished t := by rwa [Unfinished, hstate]
        rw [received_ne hsid, hdata, htype]
        exact (hk sid' t ht hopen').congr hstate.symm hplayer.symm
  | event he hfire =>
      intro sid' s' hs' hopen
      rw [List.append_nil]
      rcases ServerLobbyThread.calm_fire he hfire hs' hopen with hnone | ⟨t, ht, hstate, hplayer⟩
      · exact .of_none hnone
      · have hopen' : Unfinished t := by rwa [Unfinished, hstate]
        exact (hk sid' t ht hopen').congr hstate.symm hplayer.symm

end AvatarServer

theorem AvatarManager.storeAvatarInCache_cases (disk : DiskOutcome) (m : AvatarManager) (md5buf : MD5Buf)
    (t : AvatarFileType) (data : Bytes) :
    ((m.storeAvatarInCache disk md5buf t data).1 = true ∧ data.length ≤ MAX_AVATAR_FILE_SIZE ∧
      isValidAvatarFileType t data ∧ (m.storeAvatarInCache disk md5buf t data).2.files =
        Function.update m.files (md5buf, getAvatarFileExtension t) (some data)) ∨
    ((m.storeAvatarInCache disk md5buf t data).1 = false ∧
      ∀ key data', (m.storeAvatarInCache disk md5buf t data).2.files key = some data' → m.files key = some data') := by
  simp only [storeAvatarInCache]
  split_ifs with hsize hvalid
  · exact .inr ⟨rfl, fun _ _ h => h⟩
  · cases disk with
    | denied => exact .inr ⟨rfl, fun _ _ h => h⟩
    | failed =>
        refine .inr ⟨rfl, fun key data' h => ?_⟩
        by_cases hkey : key = (md5buf, getAvatarFileExtension t)
        · subst hkey
          simp at h
        · simpa [Function.update_of_ne hkey] using h
    | written => exact .inl ⟨rfl, by omega, hvalid.2.2, rfl⟩
  · exact .inr ⟨rfl, fun _ _ h => h⟩

namespace AvatarServer

variable {w w' : AvatarServer} {disk : DiskOutcome} {hist : List AvatarNote} {notes : List AvatarNote}
  {msg : AvatarMsg}

/-- A message stores a complete avatar, or leaves the files that there are. -/
theorem handleBytes_cases (w : AvatarServer) (disk : DiskOutcome) (sid : SessionId) (s : SessionData) (msg : AvatarMsg) :
    (∃ md5buf p, w.storedNotes disk sid s msg = [.stored md5buf (w.fileType sid) (w.fileData sid)] ∧ msg = .avatarEnd ∧
      s.state = .receivingAvatar ∧ s.playerData = some p ∧ p.avatarMD5 = some md5buf ∧
      ServerLobbyThread.receivedAvatar p ∧ AvatarManager.isValidAvatarFileType (w.fileType sid) (w.fileData sid) ∧
      (w.handleBytes disk sid s msg).2.avatarManager.files = Function.update w.avatarManager.files
        (md5buf, AvatarManager.getAvatarFileExtension (w.fileType sid)) (some (w.fileData sid))) ∨
    (w.storedNotes disk sid s msg = [] ∧ ∀ key data,
      (w.handleBytes disk sid s msg).2.avatarManager.files key = some data → w.avatarManager.files key = some data) := by
  have hnothing (hbytes : (w.handleBytes disk sid s msg).1 = false)
      (hfiles : (w.handleBytes disk sid s msg).2.avatarManager = w.avatarManager) :
      w.storedNotes disk sid s msg = [] ∧ ∀ key data,
        (w.handleBytes disk sid s msg).2.avatarManager.files key = some data → w.avatarManager.files key = some data := by
    refine ⟨by rw [storedNotes, hbytes]; rfl, fun key data h => ?_⟩
    rwa [hfiles] at h
  by_cases hend : s.state = .receivingAvatar ∧ msg = .avatarEnd
  · obtain ⟨hstate, rfl⟩ := hend
    have hbytes : w.handleBytes disk sid s .avatarEnd = w.handleNetPacketAvatarEnd disk sid s := by
      simp only [handleBytes, hstate]
    cases hunder : storedUnder s with
    | none =>
        have hdone : w.handleNetPacketAvatarEnd disk sid s = (false, w) := by
          simp only [handleNetPacketAvatarEnd, hunder]
        exact .inr (hnothing (by rw [hbytes, hdone]) (by rw [hbytes, hdone]))
    | some md5buf =>
        have hdone : w.handleNetPacketAvatarEnd disk sid s =
            ((w.avatarManager.storeAvatarInCache disk md5buf (w.fileType sid) (w.fileData sid)).1,
              { w with avatarManager :=
                (w.avatarManager.storeAvatarInCache disk md5buf (w.fileType sid) (w.fileData sid)).2 }) := by
          simp only [handleNetPacketAvatarEnd, hunder]
        rcases AvatarManager.storeAvatarInCache_cases disk w.avatarManager md5buf (w.fileType sid) (w.fileData sid) with
          ⟨htrue, _, hvalid, hfiles⟩ | ⟨hfalse, hfiles⟩
        · left
          simp only [storedUnder] at hunder
          split at hunder
          · cases hunder
          · next p hp =>
              split_ifs at hunder with hreceived
              refine ⟨md5buf, p, ?_, rfl, hstate, hp, hunder, hreceived, hvalid, ?_⟩
              · rw [storedNotes, hbytes, hdone, if_pos htrue]
                simp only [storedUnder, hp, if_pos hreceived, hunder]
              · rw [hbytes, hdone]
                exact hfiles
        · right
          refine ⟨by rw [storedNotes, hbytes, hdone, hfalse]; rfl, fun key data h => hfiles key data ?_⟩
          rwa [hbytes, hdone] at h
  · right
    have hfirst : (w.handleBytes disk sid s msg).1 = false ∧
        (w.handleBytes disk sid s msg).2.avatarManager = w.avatarManager := by
      simp only [handleBytes]
      split
      · simp only [handleNetPacketAvatarHeader]
        split_ifs <;> exact ⟨trivial, rfl⟩
      · simp only [handleNetPacketAvatarFile]
        split
        · exact ⟨trivial, rfl⟩
        · split_ifs <;> exact ⟨trivial, rfl⟩
      · next hstate =>
          exact absurd ⟨hstate, rfl⟩ hend
      · exact ⟨rfl, rfl⟩
    exact hnothing hfirst.1 hfirst.2

theorem uploaded_step (hk : Kept hist w) (hall : Runs.Each Uploaded hist) (hstep : Step c w notes w') :
    Runs.Each Uploaded (hist ++ notes) := by
  cases hstep with
  | @packet sid s msg env disk hs hgame =>
      have hreceived : Runs.Each Uploaded (hist ++ [.received sid msg]) :=
        hall.snoc fun md5buf t data heq => by cases heq
      rw [List.append_cons]
      rcases handleBytes_cases w disk sid s msg with
        ⟨md5buf, p, hnotes, rfl, hstate, hp, hmd5, hcomplete, hvalid, _⟩ | ⟨hnone, _⟩
      · rw [hnotes]
        refine hreceived.snoc ?_
        rintro md5buf' t data heq
        cases heq
        obtain ⟨hhash, hfile⟩ := hk sid s hs (.inr hstate)
        simp only [ServerLobbyThread.receivedAvatar, Bool.and_eq_true, Option.any_eq_true, bne_iff_ne, beq_iff_eq]
          at hcomplete
        obtain ⟨_, file, hnet, hpos, hfull⟩ := hcomplete
        obtain ⟨avatarType, hupload, htype, hcount, hmin, hmax⟩ := hfile hstate p file hp hnet
        have hmsgs : received sid (hist ++ [.received sid .avatarEnd]) = received sid hist ++ [.avatarEnd] := by
          simp [received, AvatarNote.msgOf]
        have hlen : (w.fileData sid).length = file.reportedSize := hcount.symm.trans hfull
        refine ⟨sid, ⟨file.reportedSize, avatarType, w.fileData sid⟩, ?_, ?_, rfl, hlen, hlen ▸ hmin, hlen ▸ hmax, htype,
          hvalid⟩
        · rw [hmsgs, claimed_avatarEnd]
          exact hhash p md5buf hp hmd5
        · rw [hmsgs, upload_avatarEnd]
          exact hupload
      · rw [hnone, List.append_nil]
        exact hreceived
  | event he hfire =>
      rw [List.append_nil]
      exact hall

/-- The files of the cache are those that were there and those that have been stored. -/
def FilesOf (m : AvatarManager) (hist : List AvatarNote) (w : AvatarServer) : Prop :=
  ∀ key data, w.avatarManager.files key = some data → m.files key = some data ∨
    ∃ md5buf t, .stored md5buf t data ∈ hist ∧ key = (md5buf, AvatarManager.getAvatarFileExtension t)

theorem FilesOf.step {m : AvatarManager} (hf : FilesOf m hist w) (hstep : Step c w notes w') :
    FilesOf m (hist ++ notes) w' := by
  have hold (key : MD5Buf × String) (data : Bytes) (h : w.avatarManager.files key = some data) :
      m.files key = some data ∨ ∃ md5buf t, .stored md5buf t data ∈ hist ++ notes ∧
        key = (md5buf, AvatarManager.getAvatarFileExtension t) := by
    rcases hf key data h with hm | ⟨md5buf, t, hmem, hkey⟩
    · exact .inl hm
    · exact .inr ⟨md5buf, t, List.mem_append_left _ hmem, hkey⟩
  cases hstep with
  | @packet sid s msg env disk hs hgame =>
      intro key data h
      rcases handleBytes_cases w disk sid s msg with ⟨md5buf, p, hnotes, -, -, -, -, -, -, hfiles⟩ | ⟨_, hfiles⟩
      · have h' : (w.handleBytes disk sid s msg).2.avatarManager.files key = some data := h
        rw [hfiles] at h'
        by_cases hkey : key = (md5buf, AvatarManager.getAvatarFileExtension (w.fileType sid))
        · subst hkey
          rw [Function.update_self] at h'
          cases h'
          exact .inr ⟨md5buf, w.fileType sid, by simp [hnotes], rfl⟩
        · rw [Function.update_of_ne hkey] at h'
          exact hold key data h'
      · exact hold key data (hfiles key data h)
  | event he hfire => exact hold

end AvatarServer

end PokerTH.Lobby
