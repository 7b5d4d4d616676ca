import Mathlib
import Bmc.Asd.Pending

/-!
# The main loop

One pass of `request_processing_loop` of `asd_main.c`, whose `poll` returns: the descriptors and the timeout of the poll, a new
client, the target's events, and the messages of the clients.

* `mainPass`: the pass; it records the calls of the session interface and the connections from which a message is read;
* `Traced`: the calls are made as the session table expects, with **`traced_mainPass`**;
* `Serves`: no session is opened with pending data, and a pass that does not wait reads from a session with pending data;
* **`pendingData_iff`**: both hold in a run exactly when no slot was left with pending data, and the poll reports the data.
-/

namespace BmcAsd

open BmcLib

/-! ## The pass -/

/-- `NUM_GPIOS` and `NUM_DBUS_FDS`, with `SPX_BMC`. -/
abbrev numGpios : ℕ := 11
abbrev numDbusFds : ℕ := 1
abbrev gpioFdIndex : ℕ := 1
abbrev maxFds : ℕ := gpioFdIndex + maxSessions + numGpios + numDbusFds

/-- What a pass meets: the times at which `session_getfds` reads the clock, the target's descriptors, whether the host's
descriptor and those of the clients are ready, the connection that is accepted and when, whether clients need no authentication,
whether an event of the target fails, whether `on_client_disconnect` succeeds, the times of the check for expired sessions, and,
for each connection, how the handshake and `on_client_connect` come out, and what `asd_msg_read` returns: nothing when it fails,
else whether more data is pending. -/
structure Pass where
  timeFds : Fin maxSessions → ℤ
  nGpios : ℕ
  hostReady : Bool
  ready : ℤ → Bool
  accepted : Option ExtnetConn
  openTime : ℤ
  authNone : Bool
  eventFails : Bool
  disconnects : Bool
  timeExpired : Fin maxSessions → ℤ
  handshakes : ℤ → Bool
  connects : ℤ → Bool
  msgRead : ℤ → Option Bool

/-- The variables of the loop of `session_getfds`. -/
structure GetfdsRound where
  fds : List ℤ
  timeoutMs : ℤ
  dataPending : Bool
  setZeroTimeout : Bool

/-- One round of the loop of `session_getfds`. -/
def sessionGetfdsStep (s : Session) (now : Fin maxSessions → ℤ) (r : GetfdsRound) (i : Fin maxSessions) : GetfdsRound :=
  let slot := s.sessions i
  if extnetIsClientClosed slot.extconn then r
  else
    let remain := max 0 ((1000 * (slot.tAuthTout - now i)).bmod (2 ^ 32))
    let timeoutMs :=
      if !slot.bAuthenticated && (r.timeoutMs < 0 || remain < r.timeoutMs) then remain else r.timeoutMs
    let dataPending := (sessionGetDataPending s slot.extconn.sockfd).getD r.dataPending
    ⟨r.fds ++ [slot.extconn.sockfd], timeoutMs, dataPending, r.setZeroTimeout || dataPending⟩

/-- The loop of `session_getfds`. -/
def sessionGetfdsLoop (s : Session) (now : Fin maxSessions → ℤ) (timeoutMs : ℤ) : GetfdsRound :=
  (List.finRange maxSessions).foldl (sessionGetfdsStep s now) ⟨[], timeoutMs, false, false⟩

/-- `session_getfds`: the descriptors and the timeout of the poll. -/
def sessionGetfds (s : Session) (now : Fin maxSessions → ℤ) (timeoutMs : ℤ) : List ℤ × ℤ :=
  let r := sessionGetfdsLoop s now timeoutMs
  (r.fds, if r.setZeroTimeout then 0 else r.timeoutMs)

/-- `struct pollfd`: the descriptor, and `POLLIN` in what the poll returns. -/
structure PollFd where
  fd : ℤ
  pollin : Bool

/-- The session table, the calls that were made of its interface, and the connections from which messages were read in the last
pass. -/
structure LoopState where
  session : Session
  calls : List SessionOp
  reads : List ℤ

def LoopState.init (data : Fin maxSessions → Option ℕ) : LoopState := ⟨sessionInit data, [], []⟩

/-- A call of the session interface. -/
def LoopState.call (l : LoopState) (op : SessionOp) : LoopState :=
  { l with session := sessionStep l.session op, calls := l.calls ++ [op] }

/-- `ensure_client_authenticated` -/
def ensureClientAuthenticated (e : Pass) (l : LoopState) (conn : ExtnetConn) : Status × LoopState :=
  if sessionAlreadyAuthenticated l.session conn = .ok then (.ok, l)
  else if e.handshakes conn.sockfd = false then (.err, l.call (.close conn.sockfd))
  else if (sessionAuthComplete l.session conn.sockfd).1 = .ok ∧ e.connects conn.sockfd = true then
    (.ok, l.call (.authComplete conn.sockfd))
  else (.err, (l.call (.authComplete conn.sockfd)).call (.close conn.sockfd))

/-- `process_client_message` after its checks: the message is read. -/
def readClientMessage (e : Pass) (l : LoopState) (sockfd : ℤ) : LoopState :=
  let l := { l with reads := l.reads ++ [sockfd] }
  match e.msgRead sockfd with
  | none => l.call (.close sockfd)
  | some b => l.call (.setDataPending sockfd b)

/-- `process_client_message` -/
def processClientMessage (e : Pass) (l : LoopState) (p : PollFd) : LoopState :=
  match sessionLookupConn l.session p.fd with
  | none => l
  | some conn =>
    match sessionGetDataPending l.session conn.sockfd with
    | none => l
    | some dataPending =>
      if dataPending || p.pollin then
        let r := ensureClientAuthenticated e l conn
        if r.1 = .ok then readClientMessage e r.2 conn.sockfd else r.2
      else l

/-- One round of the loop of `process_all_client_messages`. -/
def processClientStep (e : Pass) (l : LoopState) (p : PollFd) : LoopState :=
  if p.pollin then processClientMessage e l p else l

/-- `process_all_client_messages` -/
def processAllClientMessages (e : Pass) (l : LoopState) (fds : List PollFd) : LoopState :=
  fds.foldl (processClientStep e) (l.call (.closeExpiredUnauth e.timeExpired))

/-- `process_new_client` -/
def processNewClient (e : Pass) (l : LoopState) (fds : List PollFd) : LoopState × List PollFd :=
  match e.accepted with
  | none => (l, fds)
  | some conn =>
    let opened := (sessionOpen l.session conn e.openTime).1
    let l := l.call (.openConn conn e.openTime)
    if opened = .ok ∧ e.authNone = true ∧ gpioFdIndex + e.nGpios + fds.length < maxFds then
      (l, fds ++ [⟨conn.sockfd, true⟩])
    else (l, fds)

/-- `close_connection` -/
def closeConnection (e : Pass) (l : LoopState) : LoopState :=
  match (sessionGetAuthenticatedConn l.session true).2 with
  | none => l
  | some conn => if e.disconnects then l.call (.close conn.sockfd) else l

/-- One pass of `request_processing_loop`. -/
def mainPass (l : LoopState) (e : Pass) : LoopState :=
  let fds := (sessionGetfds l.session e.timeFds (-1)).1.map fun fd => ⟨fd, e.ready fd⟩
  let l := { l with reads := [] }
  let r := if e.hostReady then processNewClient e l fds else (l, fds)
  -- when an event of the target fails, the messages wait for the next pass
  if e.eventFails then closeConnection e r.1 else processAllClientMessages e r.1 r.2

/-! ## Specification -/

/-- An accepted connection has a descriptor that no open one has. -/
def Pass.Allowed (l : LoopState) (e : Pass) : Prop :=
  ∀ conn, e.accepted = some conn → (SessionOp.openConn conn e.openTime).Allowed l.session

instance (l : LoopState) (e : Pass) : Decidable (e.Allowed l) :=
  decidable_of_iff (∀ conn ∈ e.accepted, (SessionOp.openConn conn e.openTime).Allowed l.session) Iff.rfl

/-- The pass does not wait, because of pending data. -/
def PollsAtOnce (l : LoopState) (e : Pass) : Prop := (sessionGetfdsLoop l.session e.timeFds (-1)).setZeroTimeout = true

/-- Slot `i` holds an open connection with pending data. -/
def Session.HasPending (s : Session) (i : Fin maxSessions) : Prop := s.IsOpen i ∧ (s.sessions i).bDataPending = true

/-- A pass that does not wait reads a message from a session that has data pending. -/
def ReadsPending (l : LoopState) (e : Pass) : Prop :=
  PollsAtOnce l e → ∃ i, l.session.HasPending i ∧ (l.session.sessions i).extconn.sockfd ∈ (mainPass l e).reads

/-- No event of the target fails, and the poll reports the data of a session that has data pending. -/
def PollReports (l : LoopState) (e : Pass) : Prop :=
  (∃ i, l.session.HasPending i) →
    e.eventFails = false ∧ ∃ i, l.session.HasPending i ∧ e.ready (l.session.sessions i).extconn.sockfd = true

/-- **Pending data is served** in a run: it belongs to its session, and no pass spins. -/
def Serves (data : Fin maxSessions → Option ℕ) (es : List Pass) : Prop :=
  OpensFresh data (es.foldl mainPass (.init data)).calls ∧ AllSteps mainPass ReadsPending (.init data) es

/-- The run opens no session in a slot that was left with pending data, and its polls report the data. -/
def Reported (data : Fin maxSessions → Option ℕ) (es : List Pass) : Prop :=
  OpensElsewhere data (es.foldl mainPass (.init data)).calls ∧ AllSteps mainPass PollReports (.init data) es

/-! ## The calls of a pass -/

/-- The flag is set for authenticated sessions only. -/
def SessionOp.OnAuthenticated (s : Session) : SessionOp → Prop
  | .setDataPending sockfd _ => ∀ i, sessionFindPrivate s sockfd = some i → (s.sessions i).bAuthenticated = true
  | _ => True

/-- How the main loop makes its calls. -/
def SessionOp.Made (s : Session) (op : SessionOp) : Prop := op.Allowed s ∧ op.OnOpen ∧ op.OnAuthenticated s

/-- `l'` is reached from `l` by calls of the main loop; those that close a connection close one that `P` holds of. -/
def MakesCalls (P : ℤ → Prop) (l l' : LoopState) : Prop :=
  ∃ ops, l'.calls = l.calls ++ ops ∧ l'.session = ops.foldl sessionStep l.session ∧
    AllSteps sessionStep (fun s op => op.Made s) l.session ops ∧ ∀ op ∈ ops, ∀ fd, op.Closes fd → P fd

section Calls

variable {P : ℤ → Prop} {l l' l'' : LoopState}

theorem MakesCalls.refl (P : ℤ → Prop) (l : LoopState) : MakesCalls P l l :=
  ⟨[], (List.append_nil _).symm, rfl, trivial, fun _ h => absurd h List.not_mem_nil⟩

theorem MakesCalls.trans (h : MakesCalls P l l') (h' : MakesCalls P l' l'') : MakesCalls P l l'' := by
  obtain ⟨ops, hcalls, hsession, hall, hcloses⟩ := h
  obtain ⟨ops', hcalls', hsession', hall', hcloses'⟩ := h'
  refine ⟨ops ++ ops', by rw [hcalls', hcalls, List.append_assoc], by rw [hsession', hsession, List.foldl_append],
    allSteps_append.2 ⟨hall, hsession ▸ hall'⟩, fun op hop => ?_⟩
  exact (List.mem_append.1 hop).elim (hcloses op) (hcloses' op)

/-- What is read does not matter. -/
theorem MakesCalls.of_eq {reads : List ℤ} (h : MakesCalls P { l with reads := reads } l') : MakesCalls P l l' := h

theorem makesCalls_call {op : SessionOp} (hop : op.Made l.session) (hcloses : ∀ fd, op.Closes fd → P fd) :
    MakesCalls P l (l.call op) := by
  refine ⟨[op], rfl, rfl, ⟨hop, trivial⟩, fun op' hop' => ?_⟩
  rw [List.mem_singleton.1 hop']
  exact hcloses

theorem makesCalls_close {fd : ℤ} (h : P fd) : MakesCalls P l (l.call (.close fd)) :=
  makesCalls_call ⟨trivial, trivial, trivial⟩ fun _ heq => heq ▸ h

theorem MakesCalls.mono {Q : ℤ → Prop} (h : MakesCalls P l l') (hPQ : ∀ fd, P fd → Q fd) : MakesCalls Q l l' := by
  obtain ⟨ops, hcalls, hsession, hall, hcloses⟩ := h
  exact ⟨ops, hcalls, hsession, hall, fun op hop fd hfd => hPQ fd (hcloses op hop fd hfd)⟩

/-- **Frame rule.** The authenticated session stays as it is, unless its connection is closed. -/
theorem MakesCalls.keeps {i : Fin maxSessions} (h : MakesCalls P l l') (hs : l.session.Single)
    (hi : (l.session.sessions i).bAuthenticated = true) (hP : ¬ P (l.session.sessions i).extconn.sockfd) :
    l'.session.Single ∧ l.session.Keeps l'.session i := by
  obtain ⟨ops, -, hsession, hall, hcloses⟩ := h
  rw [hsession]
  clear hsession
  generalize l.session = s at hs hi hP hall ⊢
  induction ops generalizing s with
  | nil => exact ⟨hs, .refl s i⟩
  | cons op ops ih =>
    have hkeeps := sessionStep_keeps hs hall.1.1 hi fun hfd => hP (hcloses op List.mem_cons_self _ hfd)
    have hrest := ih (fun op' hop' => hcloses op' (List.mem_cons_of_mem _ hop')) (sessionStep s op)
      (sessionStep_single hs hall.1.1) (hkeeps.2.1.trans hi) (hkeeps.1 ▸ hP) hall.2
    exact ⟨hrest.1, hkeeps.trans hrest.2⟩

end Calls

/-! ## One client -/

section Client

variable {e : Pass} {l : LoopState} {s : Session} {conn : ExtnetConn} {i : Fin maxSessions}

theorem sessionLookupConn_some {fd : ℤ} (h : sessionLookupConn s fd = some conn) :
    ∃ i, sessionFindPrivate s fd = some i ∧ s.IsOpen i ∧ conn = (s.sessions i).extconn ∧ conn.sockfd = fd := by
  rw [sessionLookupConn] at h
  rcases hfind : sessionFindPrivate s fd with - | i
  · rw [hfind] at h
    cases h
  · rw [hfind] at h
    dsimp only at h
    split_ifs at h with hopen
    obtain rfl := Option.some.inj h
    exact ⟨i, rfl, hopen, rfl, sessionFindPrivate_some hfind⟩

/-- Descriptors that stay where they are are found where they were. -/
theorem sessionFindPrivate_congr {t : Session} (h : ∀ i, (t.sessions i).extconn = (s.sessions i).extconn) (fd : ℤ) :
    sessionFindPrivate t fd = sessionFindPrivate s fd := by
  rw [sessionFindPrivate, sessionFindPrivate]
  simp only [h]

/-- The slot with the descriptor of a connection. -/
theorem Session.Single.find (h : s.Single) (hi : s.IsOpen i) :
    sessionFindPrivate s (s.sessions i).extconn.sockfd = some i := by
  rcases hfind : sessionFindPrivate s (s.sessions i).extconn.sockfd with - | k
  · rw [sessionFindPrivate, List.find?_eq_none] at hfind
    exact absurd (decide_eq_true rfl) (hfind i (List.mem_finRange i))
  · rw [h.distinct i k hi (sessionFindPrivate_some hfind).symm]

/-- `session_already_authenticated` for a connection that was looked up. -/
theorem sessionAlreadyAuthenticated_of_find (hopen : 0 ≤ conn.sockfd) (hfind : sessionFindPrivate s conn.sockfd = some i) :
    sessionAlreadyAuthenticated s conn = .ok ↔ (s.sessions i).bAuthenticated = true := by
  rw [sessionAlreadyAuthenticated, if_neg fun hclosed => (extnetIsClientClosed_iff conn).1 hclosed hopen, hfind]
  dsimp only
  split_ifs with hauth
  · exact ⟨fun _ => hauth, fun _ => rfl⟩
  · exact ⟨(fun heq => nomatch heq), fun hauth' => absurd hauth' hauth⟩

theorem sessionAuthComplete_extconn (s : Session) (fd : ℤ) (i : Fin maxSessions) :
    ((sessionAuthComplete s fd).2.sessions i).extconn = (s.sessions i).extconn := by
  rw [sessionAuthComplete]
  split_ifs
  · rfl
  · rcases sessionFindPrivate s fd with - | k
    · rfl
    · dsimp only
      rcases eq_or_ne i k with rfl | hne
      · rw [Session.setSlot_self]
      · rw [Session.setSlot_of_ne _ _ hne]

/-- A connection whose authentication completes is authenticated. -/
theorem sessionAuthComplete_ok {fd : ℤ} (h : (sessionAuthComplete s fd).1 = .ok)
    (hfind : sessionFindPrivate (sessionAuthComplete s fd).2 fd = some i) :
    ((sessionAuthComplete s fd).2.sessions i).bAuthenticated = true := by
  rw [sessionFindPrivate_congr (sessionAuthComplete_extconn s fd)] at hfind
  rw [sessionAuthComplete] at h ⊢
  split_ifs at h ⊢
  rw [hfind]
  dsimp only
  rw [Session.setSlot_self]

/-- **Authentication** closes no other connection, and ends well only with an authenticated session. -/
theorem ensureClientAuthenticated_spec (hopen : 0 ≤ conn.sockfd) (hfind : sessionFindPrivate l.session conn.sockfd = some i) :
    MakesCalls (· = conn.sockfd) l (ensureClientAuthenticated e l conn).2 ∧
      ((ensureClientAuthenticated e l conn).1 = .ok →
        ∀ k, sessionFindPrivate (ensureClientAuthenticated e l conn).2.session conn.sockfd = some k →
          ((ensureClientAuthenticated e l conn).2.session.sessions k).bAuthenticated = true) := by
  have hne : Status.err ≠ .ok := by decide
  have hcomplete : MakesCalls (· = conn.sockfd) l (l.call (.authComplete conn.sockfd)) := by
    refine makesCalls_call ⟨⟨i, ?_, sessionFindPrivate_some hfind⟩, trivial, trivial⟩ fun _ h => absurd h id
    rw [Session.IsOpen, sessionFindPrivate_some hfind]
    exact hopen
  rw [ensureClientAuthenticated]
  by_cases halready : sessionAlreadyAuthenticated l.session conn = .ok
  · rw [if_pos halready]
    refine ⟨.refl _ _, fun _ k hk => ?_⟩
    obtain rfl := Option.some.inj (hk.symm.trans hfind)
    exact (sessionAlreadyAuthenticated_of_find hopen hfind).1 halready
  rw [if_neg halready]
  by_cases hhandshake : e.handshakes conn.sockfd = false
  · rw [if_pos hhandshake]
    exact ⟨makesCalls_close rfl, fun heq => absurd heq hne⟩
  rw [if_neg hhandshake]
  by_cases hok : (sessionAuthComplete l.session conn.sockfd).1 = .ok ∧ e.connects conn.sockfd = true
  · rw [if_pos hok]
    exact ⟨hcomplete, fun _ k hk => sessionAuthComplete_ok hok.1 hk⟩
  · rw [if_neg hok]
    exact ⟨hcomplete.trans (makesCalls_close rfl), fun heq => absurd heq hne⟩

/-- **A message** is processed without closing another connection. -/
theorem makesCalls_processClientMessage (e : Pass) (l : LoopState) (p : PollFd) :
    MakesCalls (· = p.fd) l (processClientMessage e l p) := by
  rw [processClientMessage]
  rcases hlookup : sessionLookupConn l.session p.fd with - | conn
  · exact .refl _ _
  obtain ⟨i, hfind, hopen, hconn, hfd⟩ := sessionLookupConn_some hlookup
  rw [← hfd] at hfind ⊢
  have hnonneg : 0 ≤ conn.sockfd := hconn ▸ hopen
  dsimp only
  rcases sessionGetDataPending l.session conn.sockfd with - | dataPending
  · exact .refl _ _
  dsimp only
  by_cases hready : (dataPending || p.pollin) = true
  · rw [if_pos hready]
    obtain ⟨hcalls, hauth⟩ := ensureClientAuthenticated_spec (e := e) hnonneg hfind
    by_cases hok : (ensureClientAuthenticated e l conn).1 = .ok
    · rw [if_pos hok]
      refine hcalls.trans ?_
      rw [readClientMessage]
      rcases e.msgRead conn.sockfd with - | b
      · exact .of_eq (makesCalls_close rfl)
      · exact .of_eq (makesCalls_call ⟨trivial, hnonneg, hauth hok⟩ fun _ h => absurd h id)
    · rw [if_neg hok]
      exact hcalls
  · rw [if_neg hready]
    exact .refl _ _

/-- What a client message reads: nothing, or a message of its connection. -/
theorem mem_reads_processClientMessage {p : PollFd} {fd : ℤ} (h : fd ∈ (processClientMessage e l p).reads) :
    fd ∈ l.reads ∨ fd = p.fd := by
  have hcall : ∀ (l : LoopState) op, (l.call op).reads = l.reads := fun l op => rfl
  have hensure : ∀ conn, (ensureClientAuthenticated e l conn).2.reads = l.reads := by
    intro conn
    rw [ensureClientAuthenticated]
    split_ifs <;> rfl
  rw [processClientMessage] at h
  rcases hlookup : sessionLookupConn l.session p.fd with - | conn
  · rw [hlookup] at h
    exact .inl h
  rw [hlookup] at h
  dsimp only at h
  rcases hpending : sessionGetDataPending l.session conn.sockfd with - | dataPending
  · rw [hpending] at h
    exact .inl h
  rw [hpending] at h
  dsimp only at h
  split_ifs at h with hready hok
  · rw [readClientMessage] at h
    have hreads : fd ∈ (ensureClientAuthenticated e l conn).2.reads ++ [conn.sockfd] := by
      rcases hmsg : e.msgRead conn.sockfd with - | b <;> rw [hmsg] at h <;> exact h
    rw [hensure, List.mem_append, List.mem_singleton] at hreads
    obtain ⟨i, -, -, -, hfd⟩ := sessionLookupConn_some hlookup
    exact hreads.imp_right fun heq => heq.trans hfd
  · rw [hensure] at h
    exact .inl h
  · exact .inl h

/-- What has been read stays so. -/
theorem reads_processClientMessage {p : PollFd} {fd : ℤ} (h : fd ∈ l.reads) : fd ∈ (processClientMessage e l p).reads := by
  have hensure : ∀ conn, fd ∈ (ensureClientAuthenticated e l conn).2.reads := by
    intro conn
    rw [ensureClientAuthenticated]
    split_ifs <;> exact h
  rw [processClientMessage]
  rcases sessionLookupConn l.session p.fd with - | conn
  · exact h
  dsimp only
  rcases sessionGetDataPending l.session conn.sockfd with - | dataPending
  · exact h
  dsimp only
  split_ifs
  · rw [readClientMessage]
    rcases e.msgRead conn.sockfd with - | b <;> exact List.mem_append_left _ (hensure conn)
  · exact hensure conn
  · exact h

/-- **A ready client** that is authenticated is read from. -/
theorem reads_of_ready {p : PollFd} (hs : l.session.Single) (hi : (l.session.sessions i).bAuthenticated = true)
    (hfd : p.fd = (l.session.sessions i).extconn.sockfd) (hp : p.pollin = true) :
    p.fd ∈ (processClientMessage e l p).reads := by
  have hopen := hs.isOpen i hi
  have hfind := hs.find hopen
  have hlookup : sessionLookupConn l.session p.fd = some (l.session.sessions i).extconn := by
    rw [sessionLookupConn, hfd, hfind]
    exact if_pos hopen
  rw [processClientMessage, hlookup]
  dsimp only
  rw [sessionGetDataPending, hfind, Option.map_some]
  dsimp only
  have hensure : ensureClientAuthenticated e l (l.session.sessions i).extconn = (.ok, l) := by
    rw [ensureClientAuthenticated]
    exact if_pos ((sessionAlreadyAuthenticated_of_find hopen hfind).2 hi)
  rw [if_pos (by rw [hp, Bool.or_true]), hensure, if_pos rfl, readClientMessage, hfd]
  rcases e.msgRead (l.session.sessions i).extconn.sockfd with - | b <;>
    exact List.mem_append_right _ List.mem_cons_self

end Client

/-! ## All clients -/

section Clients

variable {e : Pass} {l : LoopState} {i : Fin maxSessions}

/-- `session_close_expired_unauth` is called as the table expects, and closes no authenticated connection. -/
theorem makesCalls_expired (e : Pass) (l : LoopState) : MakesCalls (fun _ => False) l (l.call (.closeExpiredUnauth e.timeExpired)) :=
  makesCalls_call ⟨trivial, trivial, trivial⟩ fun _ h => h

theorem makesCalls_processClientStep (e : Pass) (l : LoopState) (p : PollFd) :
    MakesCalls (· = p.fd) l (processClientStep e l p) := by
  rw [processClientStep]
  split_ifs
  · exact makesCalls_processClientMessage e l p
  · exact .refl _ _

theorem makesCalls_clients (e : Pass) (l : LoopState) (fds : List PollFd) :
    MakesCalls (fun _ => True) l (fds.foldl (processClientStep e) l) := by
  induction fds generalizing l with
  | nil => exact .refl _ _
  | cons p fds ih => exact ((makesCalls_processClientStep e l p).mono fun _ _ => trivial).trans (ih _)

theorem reads_clients {fd : ℤ} (fds : List PollFd) (h : fd ∈ l.reads) : fd ∈ (fds.foldl (processClientStep e) l).reads := by
  induction fds generalizing l with
  | nil => exact h
  | cons p fds ih =>
    refine ih ?_
    rw [processClientStep]
    split_ifs
    · exact reads_processClientMessage h
    · exact h

theorem mem_reads_clients {fd : ℤ} {fds : List PollFd} (h : fd ∈ (fds.foldl (processClientStep e) l).reads) :
    fd ∈ l.reads ∨ ⟨fd, true⟩ ∈ fds := by
  induction fds generalizing l with
  | nil => exact .inl h
  | cons p fds ih =>
    rcases ih h with hmem | hmem
    · rw [processClientStep] at hmem
      split_ifs at hmem with hp
      · rcases mem_reads_processClientMessage hmem with hmem | rfl
        · exact .inl hmem
        · exact .inr (hp ▸ List.mem_cons_self)
      · exact .inl hmem
    · exact .inr (List.mem_cons_of_mem _ hmem)

/-- **The ready clients.** An authenticated session whose connection is ready is read from. -/
theorem reads_of_mem {fds : List PollFd} (hs : l.session.Single) (hi : (l.session.sessions i).bAuthenticated = true)
    (hmem : ⟨(l.session.sessions i).extconn.sockfd, true⟩ ∈ fds) :
    (l.session.sessions i).extconn.sockfd ∈ (fds.foldl (processClientStep e) l).reads := by
  induction fds generalizing l with
  | nil => exact absurd hmem List.not_mem_nil
  | cons p fds ih =>
    rw [List.foldl_cons]
    rcases List.mem_cons.1 hmem with rfl | hmem
    · refine reads_clients fds ?_
      rw [processClientStep, if_pos rfl]
      exact reads_of_ready hs hi rfl rfl
    · by_cases hfd : (l.session.sessions i).extconn.sockfd = p.fd
      · by_cases hp : p.pollin = true
        · refine reads_clients fds ?_
          rw [processClientStep, if_pos hp, hfd]
          exact reads_of_ready hs hi hfd.symm hp
        · have hstep : processClientStep e l p = l := if_neg hp
          rw [hstep]
          exact ih hs hi hmem
      · -- another client leaves the session alone
        obtain ⟨hs', hkeeps⟩ := (makesCalls_processClientStep e l p).keeps hs hi hfd
        rw [← hkeeps.1]
        exact ih hs' (hkeeps.2.1.trans hi) (hkeeps.1.symm ▸ hmem)

end Clients

/-! ## The whole pass -/

section MainPass

variable {e : Pass} {l : LoopState} {fds : List PollFd}

theorem makesCalls_processNewClient (he : e.Allowed l) (fds : List PollFd) :
    MakesCalls (fun _ => False) l (processNewClient e l fds).1 := by
  rw [processNewClient]
  rcases haccepted : e.accepted with - | conn
  · exact .refl _ _
  · have hcall : MakesCalls (fun _ => False) l (l.call (.openConn conn e.openTime)) :=
      makesCalls_call ⟨he conn haccepted, trivial, trivial⟩ fun _ h => h
    dsimp only
    split_ifs <;> exact hcall

theorem reads_processNewClient (e : Pass) (l : LoopState) (fds : List PollFd) : (processNewClient e l fds).1.reads = l.reads := by
  rw [processNewClient]
  rcases e.accepted with - | conn
  · rfl
  · dsimp only
    split_ifs <;> rfl

/-- A new client may be added to the clients that are ready. -/
theorem mem_processNewClient {p : PollFd} (h : p ∈ (processNewClient e l fds).2) :
    p ∈ fds ∨ ∃ conn, e.accepted = some conn ∧ p.fd = conn.sockfd := by
  rw [processNewClient] at h
  rcases haccepted : e.accepted with - | conn
  · rw [haccepted] at h
    exact .inl h
  · rw [haccepted] at h
    dsimp only at h
    split_ifs at h
    · rcases List.mem_append.1 h with h | h
      · exact .inl h
      · rw [List.mem_singleton.1 h]
        exact .inr ⟨conn, rfl, rfl⟩
    · exact .inl h

theorem subset_processNewClient (e : Pass) (l : LoopState) (fds : List PollFd) : fds ⊆ (processNewClient e l fds).2 := by
  rw [processNewClient]
  rcases e.accepted with - | conn
  · exact fun _ h => h
  · dsimp only
    split_ifs
    · exact List.subset_append_left _ _
    · exact fun _ h => h

theorem makesCalls_closeConnection (e : Pass) (l : LoopState) : MakesCalls (fun _ => True) l (closeConnection e l) := by
  rw [closeConnection]
  rcases (sessionGetAuthenticatedConn l.session true).2 with - | conn
  · exact .refl _ _
  · dsimp only
    split_ifs
    · exact makesCalls_close trivial
    · exact .refl _ _

theorem reads_closeConnection (e : Pass) (l : LoopState) : (closeConnection e l).reads = l.reads := by
  rw [closeConnection]
  rcases (sessionGetAuthenticatedConn l.session true).2 with - | conn
  · rfl
  · dsimp only
    split_ifs <;> rfl

/-! ## What the poll asks for -/

/-- The rounds of `session_getfds` for some slots. -/
theorem sessionGetfds_rounds {s : Session} (hs : s.Single) (now : Fin maxSessions → ℤ) (is : List (Fin maxSessions))
    (r : GetfdsRound) :
    (∀ fd, fd ∈ (is.foldl (sessionGetfdsStep s now) r).fds ↔
        fd ∈ r.fds ∨ ∃ i ∈ is, s.IsOpen i ∧ (s.sessions i).extconn.sockfd = fd) ∧
      ((is.foldl (sessionGetfdsStep s now) r).setZeroTimeout = true ↔ r.setZeroTimeout = true ∨ ∃ i ∈ is, s.HasPending i) := by
  induction is generalizing r with
  | nil => exact ⟨fun fd => ⟨.inl, fun h => h.elim id fun ⟨i, hi, _⟩ => absurd hi List.not_mem_nil⟩,
      ⟨.inl, fun h => h.elim id fun ⟨i, hi, _⟩ => absurd hi List.not_mem_nil⟩⟩
  | cons i is ih =>
    obtain ⟨hfds, hzero⟩ := ih (sessionGetfdsStep s now r i)
    rw [List.foldl_cons]
    by_cases hopen : s.IsOpen i
    · have hclosed : ¬ extnetIsClientClosed (s.sessions i).extconn = true :=
        fun h => (extnetIsClientClosed_iff _).1 h hopen
      have hround : (sessionGetfdsStep s now r i).fds = r.fds ++ [(s.sessions i).extconn.sockfd] ∧
          (sessionGetfdsStep s now r i).setZeroTimeout = (r.setZeroTimeout || (s.sessions i).bDataPending) := by
        rw [sessionGetfdsStep]
        dsimp only
        rw [if_neg hclosed, sessionGetDataPending, hs.find hopen]
        exact ⟨rfl, rfl⟩
      refine ⟨fun fd => ?_, ?_⟩
      · rw [hfds, hround.1, List.mem_append, List.mem_singleton, List.exists_mem_cons_iff, or_assoc]
        refine or_congr_right (or_congr_left ?_)
        exact ⟨fun h => ⟨hopen, h.symm⟩, fun h => h.2.symm⟩
      · rw [hzero, hround.2, Bool.or_eq_true, List.exists_mem_cons_iff, or_assoc]
        exact or_congr_right (or_congr_left (and_iff_right hopen).symm)
    · have hround : sessionGetfdsStep s now r i = r := if_pos ((extnetIsClientClosed_iff _).2 hopen)
      rw [hround] at hfds hzero
      refine ⟨fun fd => ?_, ?_⟩
      · rw [hround, hfds, List.exists_mem_cons_iff]
        exact or_congr_right (or_iff_right fun h => hopen h.1).symm
      · rw [hround, hzero, List.exists_mem_cons_iff]
        exact or_congr_right (or_iff_right fun h => hopen h.1).symm

theorem mem_sessionGetfds {s : Session} (hs : s.Single) {now : Fin maxSessions → ℤ} {timeoutMs fd : ℤ} :
    fd ∈ (sessionGetfds s now timeoutMs).1 ↔ ∃ i, s.IsOpen i ∧ (s.sessions i).extconn.sockfd = fd := by
  refine ((sessionGetfds_rounds hs now _ _).1 fd).trans ((or_iff_right List.not_mem_nil).trans ?_)
  exact exists_congr fun i => and_iff_right (List.mem_finRange i)

theorem pollsAtOnce_iff (hs : l.session.Single) : PollsAtOnce l e ↔ ∃ i, l.session.HasPending i := by
  refine (sessionGetfds_rounds hs e.timeFds _ _).2.trans ((or_iff_right Bool.false_ne_true).trans ?_)
  exact exists_congr fun i => and_iff_right (List.mem_finRange i)

/-- **A new client** closes no connection, and the clients that were asked for are ready as the poll says. -/
theorem mainPass_newClient (he : e.Allowed l) (hs : l.session.Single) :
    ∃ r : LoopState × List PollFd,
      mainPass l e = (if e.eventFails then closeConnection e r.1 else processAllClientMessages e r.1 r.2) ∧
        r.1.reads = [] ∧ MakesCalls (fun _ => False) l r.1 ∧
          ∀ i, l.session.IsOpen i → (⟨(l.session.sessions i).extconn.sockfd, true⟩ ∈ r.2 ↔
            e.ready (l.session.sessions i).extconn.sockfd = true) := by
  have he' : e.Allowed { l with reads := [] } := he
  have hready : ∀ i, l.session.IsOpen i → (⟨(l.session.sessions i).extconn.sockfd, true⟩ ∈
      ((sessionGetfds l.session e.timeFds (-1)).1.map fun fd => (⟨fd, e.ready fd⟩ : PollFd)) ↔
        e.ready (l.session.sessions i).extconn.sockfd = true) := by
    intro i hopen
    rw [List.mem_map]
    constructor
    · rintro ⟨fd, -, heq⟩
      obtain ⟨rfl, hready⟩ := PollFd.mk.inj heq
      exact hready
    · intro hready
      exact ⟨_, (mem_sessionGetfds hs).2 ⟨i, hopen, rfl⟩, by rw [hready]⟩
  rw [mainPass]
  by_cases hhost : e.hostReady = true
  · rw [if_pos hhost]
    refine ⟨_, rfl, reads_processNewClient _ _ _, (makesCalls_processNewClient he' _).of_eq, fun i hopen => ?_⟩
    rw [← hready i hopen]
    refine ⟨fun hmem => (mem_processNewClient hmem).elim id ?_, fun hmem => subset_processNewClient e _ _ hmem⟩
    rintro ⟨conn, haccepted, heq⟩
    exact absurd heq ((he conn haccepted).2 i hopen)
  · rw [if_neg hhost]
    exact ⟨_, rfl, rfl, (MakesCalls.refl _ { l with reads := [] }).of_eq, hready⟩

/-- **A pass** makes its calls as the session table expects them. -/
theorem makesCalls_mainPass (he : e.Allowed l) (hs : l.session.Single) : MakesCalls (fun _ => True) l (mainPass l e) := by
  obtain ⟨r, hpass, -, hcalls, -⟩ := mainPass_newClient he hs
  have hcalls := hcalls.mono fun _ => (False.elim : False → True)
  rw [hpass]
  split_ifs
  · exact hcalls.trans (makesCalls_closeConnection e r.1)
  · exact hcalls.trans (((makesCalls_expired e r.1).mono fun _ => False.elim).trans (makesCalls_clients e _ r.2))

/-- **One pass** reads pending data of authenticated sessions exactly when the poll reports it. -/
theorem readsPending_iff (he : e.Allowed l) (hs : l.session.Single)
    (hauth : ∀ i, l.session.HasPending i → (l.session.sessions i).bAuthenticated = true) :
    ReadsPending l e ↔ PollReports l e := by
  obtain ⟨r, hpass, hreads, hcalls, hready⟩ := mainPass_newClient he hs
  rw [ReadsPending, pollsAtOnce_iff hs, hpass]
  refine imp_congr_right fun _ => ?_
  constructor
  · rintro ⟨i, hpending, hmem⟩
    by_cases hfails : e.eventFails = true
    · rw [if_pos hfails, reads_closeConnection, hreads] at hmem
      exact absurd hmem List.not_mem_nil
    · rw [if_neg hfails] at hmem
      refine ⟨Bool.eq_false_of_not_eq_true hfails, i, hpending, (hready i hpending.1).1 ?_⟩
      exact (mem_reads_clients hmem).resolve_left fun hmem => absurd (hreads ▸ hmem) List.not_mem_nil
  · rintro ⟨hfails, i, hpending, hi⟩
    refine ⟨i, hpending, ?_⟩
    rw [hfails, if_neg Bool.false_ne_true, processAllClientMessages]
    have hmem := (hready i hpending.1).2 hi
    obtain ⟨hs', hkeeps⟩ := (hcalls.trans (makesCalls_expired e r.1)).keeps hs (hauth i hpending) id
    rw [← hkeeps.1] at hmem ⊢
    exact reads_of_mem hs' (hkeeps.2.1.trans (hauth i hpending)) hmem

end MainPass

/-! ## The run -/

section Run

variable {data : Fin maxSessions → Option ℕ}

theorem sessionClosePrivate_not_open (s : Session) (i : Fin maxSessions) : ¬ (sessionClosePrivate s i).IsOpen i := by
  rw [Session.IsOpen, sessionClosePrivate]
  dsimp only
  rw [Session.setSlot_self]
  dsimp only
  split_ifs with hclosed
  · exact (extnetIsClientClosed_iff _).1 hclosed
  · rw [extnetCloseClient]
    decide

/-- Pending data belongs to authenticated sessions. -/
def Session.PendingAuth (s : Session) : Prop := ∀ i, s.HasPending i → (s.sessions i).bAuthenticated = true

/-- What only closes slot `k`, or leaves it as it is, and leaves the others alone. -/
theorem Session.PendingAuth.of_others {s t : Session} {k : Fin maxSessions} (h : s.PendingAuth)
    (hk : t.HasPending k → (t.sessions k).bAuthenticated = true) (hothers : ∀ i, i ≠ k → t.sessions i = s.sessions i) :
    t.PendingAuth := by
  intro i hi
  rcases eq_or_ne i k with rfl | hne
  · exact hk hi
  · rw [Session.HasPending, Session.IsOpen, hothers i hne] at hi
    rw [hothers i hne]
    exact h i hi

theorem Session.PendingAuth.closePrivate {s : Session} (h : s.PendingAuth) (k : Fin maxSessions) :
    (sessionClosePrivate s k).PendingAuth :=
  h.of_others (fun hk => absurd hk.1 (sessionClosePrivate_not_open s k)) fun _ hne => Session.setSlot_of_ne _ _ hne

/-- **A call** of the main loop keeps pending data with authenticated sessions, when a new session is fresh. -/
theorem Session.PendingAuth.step {s : Session} {op : SessionOp} (h : s.PendingAuth) (hop : op.Made s)
    (hfresh : ∀ conn now, op = .openConn conn now → ∀ i, sessionFindPrivate s unusedSocketFd = some i →
      ((sessionOpen s conn now).2.sessions i).bDataPending = false) : (sessionStep s op).PendingAuth := by
  cases op with
  | openConn conn now =>
    have hfresh := hfresh conn now rfl
    rw [sessionStep]
    rw [sessionOpen] at hfresh ⊢
    rcases hfind : sessionFindPrivate s unusedSocketFd with - | k
    · exact h
    · rw [hfind] at hfresh
      exact h.of_others (fun hk => absurd hk.2 (by rw [hfresh k rfl]; exact Bool.false_ne_true))
        fun _ hne => Session.setSlot_of_ne _ _ hne
  | close fd =>
    rw [sessionStep, sessionClose]
    split_ifs
    · exact h
    · rcases sessionFindPrivate s fd with - | k
      · exact h
      · exact h.closePrivate k
  | closeAll =>
    refine List.foldlRecOn (motive := Session.PendingAuth) _ _ h fun t ht i _ => ?_
    rw [sessionCloseAllStep]
    split_ifs
    · exact ht
    · exact ht.closePrivate i
  | closeExpiredUnauth now =>
    refine List.foldlRecOn (motive := Session.PendingAuth) _ _ h fun t ht i _ => ?_
    rw [sessionCloseExpiredStep]
    split_ifs
    · exact ht.closePrivate i
    · exact ht
  | authComplete fd =>
    rw [sessionStep, sessionAuthComplete]
    split_ifs
    · exact h
    · rcases sessionFindPrivate s fd with - | k
      · exact h
      · refine h.of_others (k := k) (fun _ => ?_) fun _ hne => Session.setSlot_of_ne _ _ hne
        dsimp only
        rw [Session.setSlot_self]
  | setDataPending fd b =>
    have hauth := hop.2.2
    rw [SessionOp.OnAuthenticated] at hauth
    rw [sessionStep, sessionSetDataPending]
    rcases hfind : sessionFindPrivate s fd with - | k
    · exact h
    · refine h.of_others (k := k) (fun _ => ?_) fun _ hne => Session.setSlot_of_ne _ _ hne
      dsimp only
      rw [Session.setSlot_self]
      exact hauth k hfind

theorem OpensFresh.of_append {ops ops' : List SessionOp} (h : OpensFresh data (ops ++ ops')) : OpensFresh data ops :=
  fun before conn now behind heq => h before conn now (behind ++ ops') (by rw [heq, List.append_assoc, List.cons_append])

/-- **A run of calls** of the main loop keeps pending data with authenticated sessions, when its new sessions are fresh. -/
theorem pendingAuth_run {ops : List SessionOp} (hall : AllSteps sessionStep (fun s op => op.Made s) (sessionInit data) ops)
    (hfresh : OpensFresh data ops) : (tableAfter data ops).PendingAuth := by
  induction ops using List.reverseRecOn with
  | nil => exact fun i hi => absurd hi.2 Bool.false_ne_true
  | append_singleton ops op ih =>
    obtain ⟨hops, hop, -⟩ := allSteps_append.1 hall
    rw [tableAfter_append]
    refine (ih hops hfresh.of_append).step hop fun conn now heq i hfind => ?_
    exact hfresh ops conn now [] (by rw [heq]) i hfind

theorem MakesCalls.single {P : ℤ → Prop} {l l' : LoopState} (h : MakesCalls P l l') (hs : l.session.Single) : l'.session.Single := by
  obtain ⟨ops, -, hsession, hall, -⟩ := h
  rw [hsession]
  exact hall.foldl_inv (I := Session.Single) (fun _ _ hs hop => sessionStep_single hs hop.1) hs

/-- **A run of passes** makes its calls as the session table expects them. -/
theorem makesCalls_run {l : LoopState} {es : List Pass} (hes : AllSteps mainPass (fun l e => e.Allowed l) l es)
    (hs : l.session.Single) : MakesCalls (fun _ => True) l (es.foldl mainPass l) := by
  induction es generalizing l with
  | nil => exact .refl _ _
  | cons e es ih =>
    have hpass := makesCalls_mainPass hes.1 hs
    exact hpass.trans (ih hes.2 (hpass.single hs))

/-- The calls of a loop state that was reached from the beginning. -/
theorem MakesCalls.ofInit {P : ℤ → Prop} {l : LoopState} (h : MakesCalls P (.init data) l) :
    l.session = tableAfter data l.calls ∧ AllSteps sessionStep (fun s op => op.Made s) (sessionInit data) l.calls := by
  obtain ⟨ops, hcalls, hsession, hall, -⟩ := h
  rw [hcalls]
  exact ⟨hsession, hall⟩

/-- Pending data is read exactly when the poll reports it, in a run whose new sessions are fresh. -/
theorem readsPending_run {l : LoopState} {es : List Pass} (hl : MakesCalls (fun _ => True) (.init data) l)
    (hes : AllSteps mainPass (fun l e => e.Allowed l) l es) (hfresh : OpensFresh data (es.foldl mainPass l).calls) :
    AllSteps mainPass ReadsPending l es ↔ AllSteps mainPass PollReports l es := by
  induction es generalizing l with
  | nil => exact Iff.rfl
  | cons e es ih =>
    have hs := hl.single (sessionInit_single data)
    have hauth : l.session.PendingAuth := by
      obtain ⟨ops, hcalls, -⟩ := makesCalls_run hes hs
      rw [hcalls] at hfresh
      rw [hl.ofInit.1]
      exact pendingAuth_run hl.ofInit.2 hfresh.of_append
    exact and_congr (readsPending_iff hes.1 hs hauth) (ih (hl.trans (makesCalls_mainPass hes.1 hs)) hes.2 hfresh)

/-- The flag is set for open connections only, in a run in which every call is made as the main loop makes it. -/
theorem onOpen_of_made {s : Session} {ops : List SessionOp} (h : AllSteps sessionStep (fun s op => op.Made s) s ops) :
    ∀ op ∈ ops, op.OnOpen := by
  induction ops generalizing s with
  | nil => exact fun _ hop => absurd hop List.not_mem_nil
  | cons op ops ih => exact List.forall_mem_cons.2 ⟨h.1.2.1, ih h.2⟩

/-- **Pending data is served** in a run of the main loop exactly when no session is opened in a slot that was left with pending
data, and the poll reports the data. -/
theorem serves_iff {es : List Pass} (hes : AllSteps mainPass (fun l e => e.Allowed l) (.init data) es) :
    Serves data es ↔ Reported data es := by
  have hrun := (makesCalls_run hes (sessionInit_single data)).ofInit
  rw [Serves, Reported, ← opensFresh_iff (onOpen_of_made hrun.2)]
  exact and_congr_right fun hfresh => readsPending_run (.refl _ _) hes hfresh

/-- **Pending data**, over the calls of the session interface in any order, and over the passes of the main loop. -/
theorem pendingData_iff {ops : List SessionOp} {es : List Pass} (hops : ∀ op ∈ ops, op.OnOpen)
    (hes : AllSteps mainPass (fun l e => e.Allowed l) (.init data) es) :
    OpensFresh data ops ∧ Serves data es ↔ OpensElsewhere data ops ∧ Reported data es :=
  and_congr (opensFresh_iff hops) (serves_iff hes)

/-- A pass in which only the connections of `ready` are ready, and `msgRead` says how the reads come out. -/
def quietPass (ready : ℤ → Bool) (msgRead : ℤ → Option Bool) : Pass :=
  ⟨fun _ => 0, 0, false, ready, none, 0, true, false, true, fun _ => 0, fun _ => true, fun _ => true, msgRead⟩

/-- The same, with a new client on the descriptor `sockfd`. -/
def clientPass (sockfd : ℤ) (msgRead : ℤ → Option Bool) : Pass :=
  { quietPass (fun _ => false) msgRead with hostReady := true, accepted := some ⟨sockfd, none⟩ }

/-- A client connects with more data pending, which is read in the next pass. -/
def servedRun : List Pass := [clientPass 4 fun _ => some true, quietPass (fun _ => true) fun _ => some false]

/-- A client connects with more data pending, and no more comes. -/
def spinningRun : List Pass := [clientPass 4 fun _ => some true, quietPass (fun _ => false) fun _ => some false]

/-- A connection with pending data is closed, and another one opened. -/
def reopened : List SessionOp :=
  [.openConn ⟨4, none⟩ 0, .authComplete 4, .setDataPending 4 true, .close 4, .openConn ⟨7, none⟩ 1]

theorem pendingData_iff_served_run :
    OpensFresh (fun _ => none) reopened ∧ Serves (fun _ => none) servedRun ↔
      OpensElsewhere (fun _ => none) reopened ∧ Reported (fun _ => none) servedRun :=
  pendingData_iff (by decide) (by decide)

theorem pendingData_lost : ¬ OpensFresh (fun _ => none) reopened ∧ ¬ Serves (fun _ => none) spinningRun := by
  constructor
  · intro h
    have hpending := h (reopened.take 4) ⟨7, none⟩ 1 [] rfl 0 (by decide)
    exact absurd hpending (by decide)
  · intro h
    obtain ⟨i, -, hmem⟩ := h.2.2.1 (by unfold PollsAtOnce; decide)
    have hreads : (mainPass (mainPass (.init fun _ => none) (clientPass 4 fun _ => some true))
        (quietPass (fun _ => false) fun _ => some false)).reads = [] := by decide
    exact absurd (hreads ▸ hmem) List.not_mem_nil

end Run

end BmcAsd
