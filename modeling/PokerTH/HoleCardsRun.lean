import PokerTH.HoleCards
import Mathlib.Data.List.Nodup

namespace PokerTH.HoleCards

open CryptHelper Decimal

variable {L : Library} {server : Server} {seat : Seat} {session : Session} {client : Client} {seats : List Seat}
  {deals : List Deal} {d : Deal}

theorem ends_nil : Ends [] := by
  intro byte hb
  cases hb

theorem ends_space (rest : List UInt8) : Ends (32 :: rest) := by
  rintro byte ⟨⟩
  rfl

theorem digits_ne_zero {n : Nat} {byte : UInt8} (hb : byte ∈ digits n) : byte ≠ 0 := by
  rintro rfl
  exact absurd (isDigit_digits n 0 hb) (by decide)

theorem length_digits {k n : Nat} (hk : 1 ≤ k) (hn : n < 10 ^ k) : (digits n).length ≤ k := by
  induction k generalizing n with
  | zero => omega
  | succ k ih =>
      rw [digits]
      split_ifs with h10
      · simp
      · have hk : 1 ≤ k := by
          rcases Nat.eq_zero_or_pos k with rfl | hk
          · simp at hn
            omega
          · exact hk
        have hdiv : n / 10 < 10 ^ k := by
          apply Nat.div_lt_of_lt_mul
          rwa [Nat.mul_comm, ← Nat.pow_succ]
        rw [List.length_append, List.length_singleton]
        exact Nat.succ_le_succ (ih hk hdiv)

theorem cardData_plain {uniqueId gameId handID : Nat} {cards : Nat × Nat} :
    ∀ byte ∈ cardData uniqueId gameId handID cards, byte ≠ 0 := by
  intro byte hb
  simp only [cardData, List.mem_append, List.mem_cons] at hb
  rcases hb with hb | rfl | hb | rfl | hb | rfl | hb | rfl | hb
  all_goals first | exact digits_ne_zero hb | decide

theorem cardData_ne_nil {uniqueId gameId handID : Nat} {cards : Nat × Nat} :
    cardData uniqueId gameId handID cards ≠ [] := by
  simp [cardData]

theorem length_cardData {uniqueId gameId handID : Nat} {cards : Nat × Nat} (hid : uniqueId < 2 ^ 32)
    (hgame : gameId < 2 ^ 32) (hhand : handID < 2 ^ 31) (hcards : cards.1 < 52 ∧ cards.2 < 52) :
    (cardData uniqueId gameId handID cards).length ≤ UINT_MAX - 15 := by
  have h1 := @length_digits 10 uniqueId (by decide) (by omega)
  have h2 := @length_digits 10 gameId (by decide) (by omega)
  have h3 := @length_digits 10 handID (by decide) (by omega)
  have h4 := @length_digits 2 cards.1 (by decide) (by omega)
  have h5 := @length_digits 2 cards.2 (by decide) (by omega)
  simp only [cardData, List.length_append, List.length_cons, UINT_MAX]
  omega

theorem readCards_cardData {cipher : List UInt8} {cards : Nat × Nat} {handID : Nat} (hpw : client.password ≠ [])
    (hdec : AES128Decrypt L client.password cipher = some (cardData client.guiPlayerId client.gameId handID cards))
    (hhand : (handID : Int) = client.currentHandID + 1) (hid : client.guiPlayerId < 2 ^ 32)
    (hgame : client.gameId < 2 ^ 32) (hmax : handID < 2 ^ 31) (hcards : cards.1 < 52 ∧ cards.2 < 52) :
    readCards L client (.encrypted cipher) = some ((cards.1 : Int), (cards.2 : Int)) := by
  have hlast : digits cards.2 = digits cards.2 ++ [] := (List.append_nil _).symm
  simp only [readCards, if_neg hpw, hdec, cardData]
  rw [(getUnsigned_digits hid (ends_space _)).1]
  dsimp only
  rw [(getUnsigned_digits hgame (ends_space _)).2]
  dsimp only
  rw [getInt_digits hmax (ends_space _)]
  dsimp only
  rw [if_neg (by simp [hhand]), getInt_digits (by omega) (ends_space _)]
  dsimp only
  rw [hlast, getInt_digits (by omega) ends_nil]

/-- The client has been told the ids, the password and the seats that the server knows. -/
structure Agrees (server : Server) (session : Session) (client : Client) : Prop where
  guiPlayerId : client.guiPlayerId = session.uniqueId
  gameId : client.gameId = server.id
  password : client.password = session.password
  currentHandID : client.currentHandID = server.currentHandID
  uniqueId_lt : session.uniqueId < 2 ^ 32
  id_lt : server.id < 2 ^ 32
  orig : 0 ≤ client.origGuiPlayerNum ∧ client.origGuiPlayerNum < client.numberOfPlayers
  seats : client.numberOfPlayers ≤ client.seats.length

theorem playerNum_mem (horig : 0 ≤ client.origGuiPlayerNum ∧ client.origGuiPlayerNum < client.numberOfPlayers)
    (i : Nat) : 0 ≤ playerNum client i ∧ playerNum client i < client.numberOfPlayers := by
  have hpos : 0 < client.numberOfPlayers := by omega
  have hfirst : 0 ≤ ((i : Int) + (client.numberOfPlayers - client.origGuiPlayerNum)).tmod client.numberOfPlayers :=
    Int.tmod_nonneg _ (by omega)
  exact ⟨Int.tmod_nonneg _ (by omega), Int.tmod_lt_of_pos _ hpos⟩

theorem setSeatStates_some (horig : 0 ≤ client.origGuiPlayerNum ∧ client.origGuiPlayerNum < client.numberOfPlayers)
    (hseats : client.numberOfPlayers ≤ client.seats.length) (states : List SeatState) (i : Nat) :
    ∃ l, setSeatStates i states client = some { client with seats := l } ∧ l.length = client.seats.length := by
  induction states generalizing i client with
  | nil => exact ⟨client.seats, rfl, rfl⟩
  | cons state states ih =>
      have hnum := playerNum_mem horig i
      obtain ⟨l, hl, hlen⟩ := @ih { client with
        seats := client.seats.modify (playerNum client i).toNat fun seat => seat.setState state } horig
        (by simpa using hseats) (i + 1)
      refine ⟨l, ?_, by simpa using hlen⟩
      rw [setSeatStates, if_pos ⟨hnum.1, by omega⟩]
      exact hl

theorem handleHandStart_some (ha : Agrees server session client) {msg : HandStartMessage} {cards : Int × Int}
    (hread : readCards L client msg.cards = some cards) :
    ∃ client', handleHandStart L client msg = some client' ∧
      client'.seats.head?.map ClientSeat.myCards = some cards ∧
      Agrees { server with currentHandID := server.currentHandID + 1 } session client' ∧
      client'.numberOfPlayers = client.numberOfPlayers := by
  obtain ⟨l, hl, hlen⟩ := setSeatStates_some ha.orig ha.seats msg.seatStates 0
  have hpos : 0 < l.length := by
    have horig := ha.orig
    have hseats := ha.seats
    omega
  refine ⟨{ client with
    seats := l.modifyHead fun seat => { seat with myCards := cards }
    currentHandID := client.currentHandID + 1
    smallBlind := msg.smallBlind }, by simp only [handleHandStart, hread, hl]; rfl, ?_, ?_, rfl⟩
  · cases l with
    | nil => cases hpos
    | cons seat l => rfl
  · exact {
      guiPlayerId := ha.guiPlayerId
      gameId := ha.gameId
      password := ha.password
      currentHandID := by simp [ha.currentHandID]
      uniqueId_lt := ha.uniqueId_lt
      id_lt := ha.id_lt
      orig := ha.orig
      seats := by simpa [hlen] using ha.seats }

theorem sendCards_server (seats : List Seat) (server : Server) :
    (sendCards L seats server).1 = { server with sessions := (sendCards L seats server).1.sessions } := by
  induction seats generalizing server with
  | nil => rfl
  | cons seat seats ih =>
      simp only [sendCards]
      split
      · exact ih server
      · split
        · exact ih _
        · exact ih server

theorem getSession_removePlayer {id : Nat} (hid : seat.uniqueId ≠ id) :
    getSession (removePlayer server seat.uniqueId) id = getSession server id := by
  simp only [getSession, removePlayer, List.find?_filter]
  congr 1
  funext s
  by_cases hs : s.uniqueId = id
  · simp [hs, Ne.symm hid]
  · simp [hs]

theorem sendCards_cons {id : Nat} (hid : seat.uniqueId ≠ id) (seats : List Seat) (server : Server) :
    ∃ server', (sendCards L (seat :: seats) server).1 = (sendCards L seats server').1 ∧
      ((sendCards L (seat :: seats) server).2.filter fun m => m.1 == id) =
        ((sendCards L seats server').2.filter fun m => m.1 == id) ∧
      getSession server' id = getSession server id ∧
      ∀ own session, handStartFor L server' own session = handStartFor L server own session := by
  simp only [sendCards]
  cases getSession server seat.uniqueId with
  | none => exact ⟨server, rfl, rfl, rfl, fun _ _ => rfl⟩
  | some other =>
      cases hmsg : handStartFor L server seat other with
      | none =>
          refine ⟨removePlayer server seat.uniqueId, ?_, ?_, getSession_removePlayer hid, fun _ _ => rfl⟩
          · simp only [hmsg]
          · simp only [hmsg]
      | some msg =>
          refine ⟨server, ?_, ?_, rfl, fun _ _ => rfl⟩
          · simp only [hmsg]
          · simp only [hmsg]
            rw [List.filter_cons_of_neg (by simp [hid])]

theorem sendCards_other {id : Nat} (hid : ∀ seat ∈ seats, seat.uniqueId ≠ id) (server : Server) :
    getSession (sendCards L seats server).1 id = getSession server id ∧
      ((sendCards L seats server).2.filter fun m => m.1 == id) = [] := by
  induction seats generalizing server with
  | nil => exact ⟨rfl, rfl⟩
  | cons seat seats ih =>
      rw [List.forall_mem_cons] at hid
      obtain ⟨server', hserver, hsent, hsession, -⟩ := @sendCards_cons L seat id hid.1 seats server
      rw [hserver, hsent, ← hsession]
      exact ih hid.2 server'

theorem getSession_removed (server : Server) (id : Nat) : getSession (removePlayer server id) id = none := by
  simp only [getSession, removePlayer, List.find?_eq_none, List.mem_filter, decide_eq_true_eq, ne_eq]
  exact fun s hs => by simp [hs.2]

/-- The session of a seat stays and gets the message of the seat, if there is one. -/
theorem sendCards_own (hmem : seat ∈ seats) (hids : (seats.map Seat.uniqueId).Nodup)
    (hsession : getSession server seat.uniqueId = some session) :
    (handStartFor L server seat session = none → getSession (sendCards L seats server).1 seat.uniqueId = none) ∧
      ∀ msg, handStartFor L server seat session = some msg →
        getSession (sendCards L seats server).1 seat.uniqueId = some session ∧
        ((sendCards L seats server).2.filter fun m => m.1 == seat.uniqueId) = [(seat.uniqueId, msg)] := by
  induction seats generalizing server with
  | nil => cases hmem
  | cons first seats ih =>
      rw [List.map_cons, List.nodup_cons] at hids
      rcases List.mem_cons.mp hmem with rfl | hmem
      · have hother : ∀ s ∈ seats, s.uniqueId ≠ seat.uniqueId := by
          intro s hs he
          exact hids.1 (he ▸ List.mem_map_of_mem hs)
        constructor
        · intro hnone
          simp only [sendCards, hsession, hnone]
          exact (sendCards_other hother _).1.trans (getSession_removed server _)
        · intro msg hmsg
          obtain ⟨hstays, hnone⟩ := @sendCards_other L seats _ hother server
          simp only [sendCards, hsession, hmsg]
          refine ⟨hstays.trans hsession, ?_⟩
          rw [List.filter_cons_of_pos (by simp), hnone]
      · have hne : first.uniqueId ≠ seat.uniqueId := by
          intro he
          exact hids.1 (he ▸ List.mem_map_of_mem hmem)
        obtain ⟨server', hserver, hsent, hsession', hmsgs⟩ := @sendCards_cons L first _ hne seats server
        rw [hserver, hsent, ← hmsgs]
        exact ih hmem hids.2 (hsession'.trans hsession)

def Usable (password : List UInt8) : Prop := password = [] ∨ AES_BLOCK_SIZE ≤ password.length

/-- The server has cards to send that the client reads if, and only if, the password is usable. -/
theorem handStartFor_cases (ha : Agrees server session client) (hseat : seat.uniqueId = session.uniqueId)
    (hmax : server.currentHandID + 1 < 2 ^ 31) (hcards : seat.cards.1 < 52 ∧ seat.cards.2 < 52) :
    (Usable session.password ∧
      ∃ msg, handStartFor L { server with currentHandID := server.currentHandID + 1 } seat session = some msg ∧
        readCards L client msg.cards = some ((seat.cards.1 : Int), (seat.cards.2 : Int))) ∨
      (¬ Usable session.password ∧
        handStartFor L { server with currentHandID := server.currentHandID + 1 } seat session = none) := by
  by_cases hpw : session.password = []
  · left
    refine ⟨Or.inl hpw, _, by rw [handStartFor, if_pos hpw], ?_⟩
    simp [createHandStart, readCards, ha.password, hpw]
  · by_cases hkey : AES_BLOCK_SIZE ≤ session.password.length
    · left
      have hid := ha.uniqueId_lt
      obtain ⟨cipher, henc, hne, hdec⟩ := AES128Decrypt_encrypt (L := L) hkey cardData_ne_nil
        (length_cardData (hseat ▸ hid) ha.id_lt hmax hcards) cardData_plain
      refine ⟨Or.inr hkey, createHandStart { server with currentHandID := server.currentHandID + 1 } (.encrypted cipher),
        ?_, ?_⟩
      · simp only [handStartFor, if_neg hpw]
        rw [henc]
        dsimp only
        rw [if_neg hne]
      · apply readCards_cardData (ha.password ▸ hpw) _ (by simp [ha.currentHandID])
          (ha.guiPlayerId ▸ hid) (ha.gameId ▸ ha.id_lt) hmax hcards
        rw [ha.password, ha.guiPlayerId, ha.gameId, ← hseat]
        exact hdec
    · right
      refine ⟨by simp [Usable, hpw, hkey], ?_⟩
      simp only [handStartFor, if_neg hpw]
      rw [AES128Encrypt_none (Nat.lt_of_not_le hkey)]

/-- A hand in which the session has a seat of its own. -/
structure Dealt (session : Session) (d : Deal) : Prop where
  connected : (d.sessions.find? fun s => s.uniqueId == session.uniqueId) = some session
  seat : ∃ seat ∈ d.seats, seat.uniqueId = session.uniqueId
  nodup : (d.seats.map Seat.uniqueId).Nodup
  cards : ∀ seat ∈ d.seats, seat.cards.1 < 52 ∧ seat.cards.2 < 52 ∧ seat.cards.1 ≠ seat.cards.2

def ownCards (session : Session) (d : Deal) : Int × Int :=
  match d.seats.find? fun seat => seat.uniqueId == session.uniqueId with
  | none => (-1, -1)
  | some seat => (seat.cards.1, seat.cards.2)

theorem ownCards_eq (hd : Dealt session d) (hmem : seat ∈ d.seats) (hid : seat.uniqueId = session.uniqueId) :
    ownCards session d = ((seat.cards.1 : Int), (seat.cards.2 : Int)) := by
  have hfind : (d.seats.find? fun s => s.uniqueId == session.uniqueId) = some seat := by
    cases hs : d.seats.find? fun s => s.uniqueId == session.uniqueId with
    | none => exact absurd hid (by simpa using List.find?_eq_none.mp hs seat hmem)
    | some other =>
        have hother := List.find?_some hs
        rw [beq_iff_eq] at hother
        rw [List.inj_on_of_nodup_map hd.nodup (List.mem_of_find?_eq_some hs) hmem (hother.trans hid.symm)]
  rw [ownCards, hfind]

theorem not_mem_of_getSession_none (hs : getSession server session.uniqueId = none) : session ∉ server.sessions := by
  intro hmem
  have hne := List.find?_eq_none.mp hs session hmem
  simp at hne

theorem startNewHand_spec (ha : Agrees server session client) (hmem : seat ∈ server.seats)
    (hid : seat.uniqueId = session.uniqueId) (hids : (server.seats.map Seat.uniqueId).Nodup)
    (hsession : getSession server session.uniqueId = some session) (hmax : server.currentHandID + 1 < 2 ^ 31)
    (hcards : seat.cards.1 < 52 ∧ seat.cards.2 < 52) :
    (Usable session.password ∧ session ∈ (startNewHand L server).1.sessions ∧ ∃ msg client' first,
        ((startNewHand L server).2.filter fun m => m.1 == session.uniqueId) = [(session.uniqueId, msg)] ∧
        handleHandStart L client msg = some client' ∧ client'.seats.head? = some first ∧
        first.myCards = ((seat.cards.1 : Int), (seat.cards.2 : Int)) ∧
        Agrees (startNewHand L server).1 session client' ∧
        (startNewHand L server).1.currentHandID = server.currentHandID + 1) ∨
      (¬ Usable session.password ∧ session ∉ (startNewHand L server).1.sessions) := by
  have hsent := @sendCards_own L { server with currentHandID := server.currentHandID + 1 } seat session
    server.seats hmem hids (hid ▸ hsession)
  have hserver := @sendCards_server L server.seats { server with currentHandID := server.currentHandID + 1 }
  rw [hid] at hsent
  rcases handStartFor_cases ha hid hmax hcards with ⟨husable, msg, hmsg, hread⟩ | ⟨hunusable, hnone⟩
  · left
    obtain ⟨client', hhandle, hhead, hagrees, -⟩ := handleHandStart_some ha hread
    obtain ⟨first, hfirst, hfirstCards⟩ := Option.map_eq_some_iff.mp hhead
    obtain ⟨hstays, hfilter⟩ := hsent.2 msg hmsg
    refine ⟨husable, List.mem_of_find?_eq_some hstays, msg, client', first, hfilter, hhandle, hfirst, hfirstCards,
      ?_, ?_⟩
    · simp only [startNewHand]
      rw [hserver]
      exact { hagrees with }
    · simp only [startNewHand]
      rw [hserver]
  · right
    exact ⟨hunusable, not_mem_of_getSession_none (hsent.1 hnone)⟩

/-- A player gets his cards in all hands if, and only if, he has no password or one that can be a key. -/
theorem hole_cards_reach_iff (ha : Agrees server session client) (hdealt : ∀ d ∈ deals, Dealt session d)
    (hmax : server.currentHandID + deals.length < 2 ^ 31) :
    playHands L session deals server client = some (deals.map (ownCards session)) ↔
      (deals ≠ [] → session.password = [] ∨ AES_BLOCK_SIZE ≤ session.password.length) := by
  induction deals generalizing server client with
  | nil => simp [playHands]
  | cons d deals ih =>
      rw [List.forall_mem_cons] at hdealt
      rw [List.length_cons] at hmax
      obtain ⟨seat, hmem, hid⟩ := hdealt.1.seat
      have hcards := hdealt.1.cards seat hmem
      have hagrees : Agrees (server.deal d) session client := { ha with }
      have hbound : (server.deal d).currentHandID + 1 < 2 ^ 31 := by
        change server.currentHandID + 1 < 2 ^ 31
        omega
      have hhand := @startNewHand_spec L (server.deal d) seat session client hagrees hmem hid hdealt.1.nodup
        hdealt.1.connected hbound ⟨hcards.1, hcards.2.1⟩
      simp only [ne_eq, reduceCtorEq, not_false_eq_true, forall_const, playHands]
      generalize startNewHand L (server.deal d) = hand at hhand ⊢
      obtain ⟨server', sent⟩ := hand
      dsimp only at hhand ⊢
      rcases hhand with ⟨husable, hstays, msg, client', first, hfilter, hhandle, hfirst, hown, hnext, hcount⟩ |
        ⟨hunusable, hgone⟩
      · have hcount' : server'.currentHandID = server.currentHandID + 1 := hcount
        have hrest := (ih hnext hdealt.2 (by omega)).mpr fun _ => husable
        rw [if_pos hstays, hfilter]
        refine iff_of_true ?_ husable
        simp only [hhandle, Option.bind_eq_bind, Option.bind_some, hfirst, hrest, hown, List.map_cons,
          ownCards_eq hdealt.1 hmem hid]
        rfl
      · rw [if_neg hgone]
        exact iff_of_false (by simp) hunusable

def passwordKey : List UInt8 := [48, 49, 50, 51, 52, 53, 54, 55, 56, 57, 97, 98, 99, 100, 101, 102]

def keyHash : List UInt8 := [117, 41, 31, 58, 24, 138, 66, 127, 135, 63, 184, 143, 188, 55, 206, 92, 225, 80, 208, 28]

def keyHashes : List (List UInt8 × List UInt8) :=
  [(passwordKey, [254, 85, 103, 232, 215, 105, 85, 8, 82, 24, 44, 223, 105, 215, 75, 177, 109, 255, 142, 41]),
    ([254, 85, 103, 232, 215, 105, 85, 8, 82, 24, 44, 223, 105, 215, 75, 177, 109, 255, 142, 41], keyHash),
    (keyHash ++ passwordKey,
      [138, 143, 128, 34, 167, 1, 74, 45, 149, 23, 22, 251, 216, 202, 178, 11, 34, 72, 162, 78]),
    ([138, 143, 128, 34, 167, 1, 74, 45, 149, 23, 22, 251, 216, 202, 178, 11, 34, 72, 162, 78],
      [229, 235, 29, 132, 98, 3, 242, 56, 198, 121, 116, 167, 153, 187, 46, 166, 156, 130, 208, 203])]

def plainBlock : List UInt8 := [55, 32, 51, 32, 49, 32, 49, 50, 32, 52, 48, 0, 0, 0, 0, 0]

def cipherBlock : List UInt8 := [166, 40, 177, 60, 108, 102, 149, 29, 182, 170, 183, 191, 114, 163, 153, 94]

def swapBlock (block : List UInt8) : List UInt8 :=
  if block = plainBlock then cipherBlock else if block = cipherBlock then plainBlock else block

/-- The hashes of the password and the one block that the first hand below encrypts. -/
def oneBlock : Library where
  sha1 data := ((keyHashes.find? fun entry => entry.1 == data).map Prod.snd).getD keyHash
  encrypt _ _ block := swapBlock block
  decrypt _ _ block := swapBlock block
  length_encrypt _ _ block := by
    simp only [swapBlock]
    split_ifs with hplain hcipher
    · rw [hplain]
      rfl
    · rw [hcipher]
      rfl
    · rfl
  decrypt_encrypt _ _ block _ := by
    have hne : cipherBlock ≠ plainBlock := by decide
    simp only [swapBlock]
    split_ifs with hplain hcipher <;> simp_all

def twoSeats : Deal where
  seats := [⟨7, true, true, (12, 40)⟩, ⟨8, true, true, (3, 51)⟩]
  sessions := [⟨7, passwordKey⟩]
  smallBlind := 10
  dealerPosition := 7

def newTable : Server := ⟨3, 0, 2, 10, 7, [], []⟩

def newClient (password : List UInt8) : Client :=
  ⟨7, 3, password, 2, 0, 0, 10, [⟨100, true, (-1, -1)⟩, ⟨100, true, (-1, -1)⟩]⟩

theorem newClient_agrees (password : List UInt8) : Agrees newTable ⟨7, password⟩ (newClient password) :=
  ⟨rfl, rfl, rfl, rfl, by simp, by decide, by simp [newClient], by simp [newClient]⟩

theorem hole_cards_reach_iff_encrypted :
    playHands oneBlock ⟨7, passwordKey⟩ [twoSeats] newTable (newClient passwordKey) = some [(12, 40)] :=
  (hole_cards_reach_iff (newClient_agrees passwordKey)
    (by
      intro d hd
      rw [List.mem_singleton] at hd
      subst hd
      exact ⟨by decide, ⟨_, List.mem_cons_self, rfl⟩, by decide, by decide⟩)
    (by decide)).mpr fun _ => Or.inr (by decide)

/-- A player with a password of six bytes is removed when the first hand starts. -/
theorem short_password_removed :
    Agrees newTable ⟨7, [115, 101, 99, 114, 101, 116]⟩ (newClient [115, 101, 99, 114, 101, 116]) ∧
      Dealt ⟨7, [115, 101, 99, 114, 101, 116]⟩
        { twoSeats with sessions := [⟨7, [115, 101, 99, 114, 101, 116]⟩] } ∧
      playHands oneBlock ⟨7, [115, 101, 99, 114, 101, 116]⟩
        [{ twoSeats with sessions := [⟨7, [115, 101, 99, 114, 101, 116]⟩] }] newTable
        (newClient [115, 101, 99, 114, 101, 116]) = none :=
  ⟨newClient_agrees _, ⟨by decide, ⟨_, List.mem_cons_self, rfl⟩, by decide, by decide⟩, by decide +kernel⟩

end PokerTH.HoleCards
