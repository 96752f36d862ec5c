import PokerTH.AvatarCache

namespace PokerTH.Lobby

theorem chunkReads_flatten (data : Bytes) : (chunkReads data).flatten = data ∧ ∀ b ∈ chunkReads data, b ≠ [] := by
  fun_induction chunkReads data with
  | case1 => simp
  | case2 data hne ih =>
      refine ⟨?_, fun b hb => ?_⟩
      · rw [List.flatten_cons, ih.1, List.take_append_drop]
      · rcases List.mem_cons.mp hb with rfl | hb
        · simp [hne, MAX_FILE_DATA_SIZE]
        · exact ih.2 b hb

theorem sum_chunkReads (data : Bytes) : ((chunkReads data).map List.length).sum = data.length := by
  rw [← List.length_flatten, (chunkReads_flatten data).1]

namespace AvatarManager

theorem startsWith_take {fileHeader header : Bytes} {n : Nat} (hstart : startsWith fileHeader header)
    (hn : header.length ≤ n) : startsWith (fileHeader.take n) header := by
  simp only [startsWith, Bool.and_eq_true, decide_eq_true_eq, beq_iff_eq] at hstart ⊢
  rw [List.length_take, List.take_take, min_eq_left hn]
  exact ⟨le_min hn hstart.1, hstart.2⟩

theorem isValidAvatarFileType_take {t : AvatarFileType} {data : Bytes} (hvalid : isValidAvatarFileType t data) :
    isValidAvatarFileType t (data.take MAX_HEADER_SIZE) := by
  cases t with
  | png => exact startsWith_take hvalid (by decide)
  | jpg => exact startsWith_take hvalid (by decide)
  | gif =>
      simp only [isValidAvatarFileType, Bool.or_eq_true] at hvalid ⊢
      exact hvalid.imp (fun h => startsWith_take h (by decide)) fun h => startsWith_take h (by decide)
  | unknown => cases hvalid

theorem avatarFileToNetPackets_valid {t : AvatarFileType} {data : Bytes} (hvalid : isValidAvatarFileType t data)
    (hmin : MIN_AVATAR_FILE_SIZE ≤ data.length) (hmax : data.length ≤ MAX_AVATAR_FILE_SIZE) :
    avatarFileToNetPackets data t = some (.avatarHeader data.length t.rawType ::
      (chunkReads data).map AvatarMsg.avatarData ++ [.avatarEnd]) := by
  have hopen : openAvatarFileForChunkRead data t ∧ t ≠ .unknown := by
    refine ⟨?_, ?_⟩
    · simp [openAvatarFileForChunkRead, hmin, hmax, isValidAvatarFileType_take hvalid]
    · rintro rfl
      cases hvalid
  rw [avatarFileToNetPackets, if_pos hopen]
  dsimp only
  rw [if_neg (fun hne => hne (sum_chunkReads data).symm)]

end AvatarManager

structure Receiving (w : AvatarServer) (sid : SessionId) (md5buf : MD5Buf) (t : AvatarFileType) (size : Nat) (data : Bytes) :
    Prop where
  session : ∃ s p, w.lobby.sessions sid = some s ∧ s.state = .receivingAvatar ∧ s.game = none ∧ s.playerData = some p ∧
    p.avatarMD5 = some md5buf ∧ p.netAvatarFile = some ⟨size, data.length⟩
  data : w.fileData sid = data
  type : w.fileType sid = t

namespace AvatarServer

variable (c : ServerConfig) (env : Environment) {sid : SessionId} {s : SessionData} {p : PlayerData} {w : AvatarServer}
  {md5buf : MD5Buf} {t : AvatarFileType} {size : Nat} {data : Bytes} {msg : AvatarMsg}

def dispatchPackets (c : ServerConfig) (env : Environment) (w : AvatarServer) (sid : SessionId) (msgs : List AvatarMsg) :
    AvatarServer :=
  msgs.foldl (fun w msg => w.dispatchPacket c env .written sid msg) w

theorem dispatchPacket_eq (hs : w.lobby.sessions sid = some s) (hgame : s.game = none) :
    w.dispatchPacket c env .written sid msg = w.handlePacket c env .written sid s msg := by
  simp [dispatchPacket, hs, hgame]

theorem receiving_header (hs : w.lobby.sessions sid = some s) (hstate : s.state = .init) (hgame : s.game = none)
    (hp : s.playerData = some p) (hmd5 : p.avatarMD5 = some md5buf) (hmin : MIN_AVATAR_FILE_SIZE ≤ size)
    (hmax : size ≤ MAX_AVATAR_FILE_SIZE) :
    Receiving (w.dispatchPacket c env .written sid (.avatarHeader size t.rawType)) sid md5buf t size [] ∧
      (w.dispatchPacket c env .written sid (.avatarHeader size t.rawType)).avatarManager = w.avatarManager ∧
      Step c w [.received sid (.avatarHeader size t.rawType)]
        (w.dispatchPacket c env .written sid (.avatarHeader size t.rawType)) := by
  have htype : ¬ t.rawType > AVATAR_FILE_TYPE_GIF := by cases t <;> decide
  have hstep : Step c w (.received sid (.avatarHeader size t.rawType) ::
      w.storedNotes .written sid s (.avatarHeader size t.rawType))
      (w.handlePacket c env .written sid s (.avatarHeader size t.rawType)) := .packet hs hgame
  have hnotes : w.storedNotes .written sid s (.avatarHeader size t.rawType) = [] := by
    simp [storedNotes, handleBytes, hstate]
  rw [hnotes] at hstep
  rw [dispatchPacket_eq c env hs hgame]
  refine ⟨?_, ?_, hstep⟩
  · rw [handlePacket_header w hstate hp ⟨hmin, hmax⟩ htype]
    exact ⟨⟨_, _, ServerLobbyThread.setSession_self _ _ _, rfl, hgame, rfl, hmd5, rfl⟩, Function.update_self _ _ _,
      (Function.update_self _ _ _).trans (AvatarFileType.ofRawType_rawType t)⟩
  · rw [handlePacket_header w hstate hp ⟨hmin, hmax⟩ htype]

theorem receiving_block {b : Bytes} (hr : Receiving w sid md5buf t size data) (hne : b ≠ [])
    (hroom : data.length + b.length ≤ size) (hmax : size ≤ MAX_AVATAR_FILE_SIZE) :
    Receiving (w.dispatchPacket c env .written sid (.avatarData b)) sid md5buf t size (data ++ b) ∧
      (w.dispatchPacket c env .written sid (.avatarData b)).avatarManager = w.avatarManager ∧
      Step c w [.received sid (.avatarData b)] (w.dispatchPacket c env .written sid (.avatarData b)) := by
  obtain ⟨⟨s, p, hs, hstate, hgame, hp, hmd5, hfile⟩, hdata, htype⟩ := hr
  have hstep : Step c w (.received sid (.avatarData b) :: w.storedNotes .written sid s (.avatarData b))
      (w.handlePacket c env .written sid s (.avatarData b)) := .packet hs hgame
  have hnotes : w.storedNotes .written sid s (.avatarData b) = [] := by
    simp [storedNotes, handleBytes, hstate]
  rw [hnotes] at hstep
  rw [dispatchPacket_eq c env hs hgame]
  have hlen : b.length ≠ 0 := fun h => hne (List.length_eq_zero_iff.mp h)
  refine ⟨?_, ?_, hstep⟩
  · rw [handlePacket_block w hstate hp hfile hlen hroom hmax]
    refine ⟨⟨_, _, ServerLobbyThread.setSession_self _ _ _, hstate, hgame, rfl, hmd5, ?_⟩, ?_, htype⟩
    · rw [List.length_append]
    · exact (Function.update_self _ _ _).trans (congrArg (· ++ b) hdata)
  · rw [handlePacket_block w hstate hp hfile hlen hroom hmax]

theorem receiving_blocks {w₀ : AvatarServer} (blocks : List Bytes) (hne : ∀ b ∈ blocks, b ≠ []) {hist : List AvatarNote}
    (hrun : Runs.History (Step c) w₀ hist w) (hr : Receiving w sid md5buf t size data)
    (hroom : data.length + blocks.flatten.length ≤ size) (hmax : size ≤ MAX_AVATAR_FILE_SIZE) :
    Receiving (w.dispatchPackets c env sid (blocks.map .avatarData)) sid md5buf t size (data ++ blocks.flatten) ∧
      (w.dispatchPackets c env sid (blocks.map .avatarData)).avatarManager = w.avatarManager ∧
      Runs.History (Step c) w₀ (hist ++ blocks.map fun b => .received sid (.avatarData b))
        (w.dispatchPackets c env sid (blocks.map .avatarData)) := by
  induction blocks generalizing w data hist with
  | nil =>
      rw [List.flatten_nil, List.append_nil, List.map_nil, List.map_nil, List.append_nil]
      exact ⟨hr, rfl, hrun⟩
  | cons b rest ih =>
      rw [List.flatten_cons, List.length_append] at hroom
      obtain ⟨hnext, hmanager, hstep⟩ := receiving_block c env hr (hne b List.mem_cons_self)
        (by omega) hmax
      obtain ⟨hdone, hmanager', hrun'⟩ := ih (fun b hb => hne b (List.mem_cons_of_mem _ hb)) (hrun.step hstep) hnext
        (by rw [List.length_append]; omega)
      rw [List.flatten_cons, ← List.append_assoc, List.map_cons, List.map_cons, List.append_cons]
      exact ⟨hdone, hmanager'.trans hmanager, hrun'⟩

theorem receiving_end (hr : Receiving w sid md5buf t data.length data) (hpos : data.length ≠ 0)
    (hmax : data.length ≤ MAX_AVATAR_FILE_SIZE) (hdir : w.avatarManager.cacheDirSet)
    (hvalid : AvatarManager.isValidAvatarFileType t data) :
    (w.dispatchPacket c env .written sid .avatarEnd).avatarManager.files
        (md5buf, AvatarManager.getAvatarFileExtension t) = some data ∧
      Step c w [.received sid .avatarEnd, .stored md5buf t data] (w.dispatchPacket c env .written sid .avatarEnd) := by
  obtain ⟨⟨s, p, hs, hstate, hgame, hp, hmd5, hfile⟩, hdata, htype⟩ := hr
  have hunder : storedUnder s = some md5buf := by
    simp [storedUnder, hp, ServerLobbyThread.receivedAvatar, hmd5, hfile, hpos]
  have hext : AvatarManager.getAvatarFileExtension t ≠ "" := by
    cases t with
    | png => decide
    | jpg => decide
    | gif => decide
    | unknown => cases hvalid
  have hstored : w.avatarManager.storeAvatarInCache .written md5buf t data = (true, { w.avatarManager with
      files := Function.update w.avatarManager.files (md5buf, AvatarManager.getAvatarFileExtension t) (some data)
      cachedAvatars := Function.update w.avatarManager.cachedAvatars md5buf
        (some ((w.avatarManager.cachedAvatars md5buf).getD (AvatarManager.getAvatarFileExtension t))) }) := by
    rw [AvatarManager.storeAvatarInCache, if_neg (by omega), if_pos ⟨hext, hdir, hvalid⟩]
  have hbytes : w.handleBytes .written sid s .avatarEnd = (true, { w with avatarManager :=
      (w.avatarManager.storeAvatarInCache .written md5buf t data).2 }) := by
    simp only [handleBytes, hstate, handleNetPacketAvatarEnd, hunder, hdata, htype, hstored]
  have hstep : Step c w (.received sid .avatarEnd :: w.storedNotes .written sid s .avatarEnd)
      (w.handlePacket c env .written sid s .avatarEnd) := .packet hs hgame
  have hnotes : w.storedNotes .written sid s .avatarEnd = [.stored md5buf t data] := by
    rw [storedNotes, hbytes, if_pos rfl, hunder, hdata, htype]
  rw [hnotes] at hstep
  rw [dispatchPacket_eq c env hs hgame]
  refine ⟨?_, hstep⟩
  have hmanager : (w.handlePacket c env .written sid s .avatarEnd).avatarManager =
      (w.avatarManager.storeAvatarInCache .written md5buf t data).2 := by
    rw [handlePacket, hbytes]
  rw [hmanager, hstored]
  exact Function.update_self _ _ _

theorem upload_packets {w₀ : AvatarServer} {hist : List AvatarNote} (hrun : Runs.History (Step c) w₀ hist w)
    (hs : w.lobby.sessions sid = some s) (hstate : s.state = .init) (hgame : s.game = none)
    (hp : s.playerData = some p) (hmd5 : p.avatarMD5 = some md5buf) (hdir : w.avatarManager.cacheDirSet)
    (hvalid : AvatarManager.isValidAvatarFileType t data) (hmin : MIN_AVATAR_FILE_SIZE ≤ data.length)
    (hmax : data.length ≤ MAX_AVATAR_FILE_SIZE) :
    ∃ msgs, AvatarManager.avatarFileToNetPackets data t = some msgs ∧
      (w.dispatchPackets c env sid msgs).avatarManager.files (md5buf, AvatarManager.getAvatarFileExtension t) =
        some data ∧
      Runs.History (Step c) w₀ (hist ++ msgs.map (.received sid) ++ [.stored md5buf t data])
        (w.dispatchPackets c env sid msgs) := by
  obtain ⟨hflat, hne⟩ := chunkReads_flatten data
  obtain ⟨hheader, hmanager, hstep⟩ := receiving_header c env (t := t) hs hstate hgame hp hmd5 hmin hmax
  obtain ⟨hblocks, hmanager', hrun'⟩ := receiving_blocks c env (chunkReads data) hne (hrun.step hstep) hheader
    (by rw [hflat, List.length_nil, Nat.zero_add]) hmax
  rw [hflat, List.nil_append] at hblocks
  have hpos : data.length ≠ 0 := by
    have hlow : 32 ≤ data.length := hmin
    omega
  obtain ⟨hfile, hlast⟩ := receiving_end c env hblocks hpos hmax
    (by rw [hmanager', hmanager]; exact hdir) hvalid
  have hfold : w.dispatchPackets c env sid (.avatarHeader data.length t.rawType ::
      (chunkReads data).map AvatarMsg.avatarData ++ [.avatarEnd]) =
      AvatarServer.dispatchPacket c env .written (AvatarServer.dispatchPackets c env
        (w.dispatchPacket c env .written sid (.avatarHeader data.length t.rawType)) sid
          ((chunkReads data).map .avatarData)) sid .avatarEnd := by
    simp only [dispatchPackets, List.cons_append, List.foldl_cons, List.foldl_append, List.foldl_nil]
  refine ⟨_, AvatarManager.avatarFileToNetPackets_valid hvalid hmin hmax, ?_, ?_⟩
  · rw [hfold]
    exact hfile
  · rw [hfold]
    have hall := hrun'.step hlast
    simpa [List.map_map, Function.comp_def] using hall

/-- Whatever the server stores is a complete upload under the hash that the uploading session claims, and every valid file
within the limits is uploaded by its packets. -/
theorem avatar_uploads {m : AvatarManager} {hist : List AvatarNote}
    (hrun : Runs.History (Step c) (initial m) hist w) :
    Runs.Each Uploaded hist ∧ FilesOf m hist w ∧
      ∀ (env : Environment) (sid : SessionId) (s : SessionData) (p : PlayerData) (md5buf : MD5Buf) (t : AvatarFileType)
        (data : Bytes), w.lobby.sessions sid = some s → s.state = .init → s.game = none → s.playerData = some p →
        p.avatarMD5 = some md5buf → w.avatarManager.cacheDirSet → AvatarManager.isValidAvatarFileType t data →
        MIN_AVATAR_FILE_SIZE ≤ data.length → data.length ≤ MAX_AVATAR_FILE_SIZE →
        ∃ msgs, AvatarManager.avatarFileToNetPackets data t = some msgs ∧
          (w.dispatchPackets c env sid msgs).avatarManager.files (md5buf, AvatarManager.getAvatarFileExtension t) =
            some data := by
  have hall : Kept hist w ∧ Runs.Each Uploaded hist ∧ FilesOf m hist w := by
    refine @Runs.History.invariant _ _ _ _ _ _ (fun hist w => Kept hist w ∧ Runs.Each Uploaded hist ∧ FilesOf m hist w)
      ⟨fun sid s hs => ?_, .nil, fun _ _ h => .inl h⟩ ?_ hrun
    · cases hs
    · rintro hist w notes w' ⟨hk, he, hf⟩ hstep
      exact ⟨hk.step hstep, uploaded_step hk he hstep, hf.step hstep⟩
  refine ⟨hall.2.1, hall.2.2, ?_⟩
  intro env sid s p md5buf t data hs hstate hgame hp hmd5 hdir hvalid hmin hmax
  obtain ⟨msgs, hmsgs, hfile, _⟩ := upload_packets c env hrun hs hstate hgame hp hmd5 hdir hvalid hmin hmax
  exact ⟨msgs, hmsgs, hfile⟩

def picture : Bytes := JPG_HEADER ++ List.replicate 30 0

def emptyCache : AvatarManager := ⟨true, fun _ => none, fun _ => none⟩

def openServer : ServerConfig := ⟨false, [], 0, false⟩

def idle : Environment := ⟨0, fun _ => false, fun _ => false, true, fun _ _ => none, fun _ => none, fun _ => true⟩

theorem picture_stored (md5buf : MD5Buf) : ∃ hist w, Runs.History (Step openServer) (initial emptyCache) hist w ∧
    .stored md5buf .jpg picture ∈ hist := by
  let m : InitMessage := ⟨5, [], true, ['a'], none, some md5buf, []⟩
  have hconnect : Runs.History (Step openServer) (initial emptyCache) ([] ++ [])
      { initial emptyCache with lobby := ServerLobbyThread.initial.addConnection 7 false } :=
    Runs.History.start.step (.event (e := .addConnection 7 false) rfl rfl)
  have hinit := hconnect.step (@Step.packet openServer _ 1 _ (.init m) idle .written rfl rfl)
  obtain ⟨msgs, -, -, hrun⟩ := @upload_packets openServer idle 1
    ⟨.init, 7, false, some ⟨1, ['a'], [], some md5buf, none⟩, [], 0, none⟩ _ _ md5buf .jpg picture _ _ hinit
    rfl rfl rfl rfl rfl rfl (by decide) (by decide) (by decide)
  exact ⟨_, _, hrun, List.mem_append_right _ (List.mem_singleton_self _)⟩

theorem avatar_uploads_picture : ∃ hist w, Runs.History (Step openServer) (initial emptyCache) hist w ∧
    .stored 7 .jpg picture ∈ hist ∧ Runs.Each Uploaded hist := by
  obtain ⟨hist, w, hrun, hmem⟩ := picture_stored 7
  exact ⟨hist, w, hrun, hmem, (avatar_uploads openServer hrun).1⟩

/-- Whatever the hash function is, the server stores a picture under a hash that is not the picture's. -/
theorem stored_under_other_hash : ¬ ∃ md5 : Bytes → MD5Buf, ∀ hist w md5buf t data,
    Runs.History (Step openServer) (initial emptyCache) hist w → .stored md5buf t data ∈ hist → md5 data = md5buf := by
  rintro ⟨md5, hhash⟩
  obtain ⟨md5buf, hne⟩ := exists_ne (md5 picture)
  obtain ⟨hist, w, hrun, hmem⟩ := picture_stored md5buf
  exact hne (hhash hist w md5buf .jpg picture hrun hmem).symm

end AvatarServer

end PokerTH.Lobby
