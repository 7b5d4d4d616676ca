import Mathlib
import Bmc.Asd.MainLoop
import Bmc.Asd.Replies

/-!
# The life of a connection's message layer

`on_client_connect` of `asd_main.c` creates the message layer for a client, `on_client_disconnect` frees it, and the passes of
`request_processing_loop` use it in between. Log messages are left out.

* `asdMsgEvent`: an event of the target, and what the client gets for it;
* `Server`, `serverPass`: one pass, with the messages that are read and the events;
* `owner`: the client that the layer belongs to, read off the log of what is done with it; `Server.Owned`;
* `serverPass_cases`: one pass; **`serverRun_owned`**: in a run the layer lives exactly as long as its client's session, and serves
  nobody else, if and only if it can be freed whenever an event fails; **`serverRun_crashes`**: what happens otherwise.
-/

namespace BmcAsd

open BmcLib

/-! ## Events of the target -/

/-- `ASD_EVENT`. -/
inductive AsdEvent where
  | plrstAssert | plrstDeassrt | prdyEvent | pwrRestore | pwrFail | xdpPresent | none
  deriving DecidableEq, Repr

/-- The value of an event. -/
def AsdEvent.value : AsdEvent → UInt8
  | .plrstAssert => 1 | .plrstDeassrt => 2 | .prdyEvent => 3 | .pwrRestore => 4 | .pwrFail => 5 | .xdpPresent => 6 | .none => 7

/-- A descriptor of the target behind the poll: nothing is reported, no pin has the descriptor, or the pin whose handler is called,
with what the handler reads and whether its writes succeed. -/
inductive PinEvent where
  | quiet
  | unknown
  | power (read : TargetAnswer)
  | platformReset (read : TargetAnswer) (preq : Bool)
  | prdy (assert deassert : Bool)
  | xdpPresent

/-- `on_power_event` -/
def onPowerEvent (read : TargetAnswer) : Status × AsdEvent :=
  if read.ok then (.ok, if read.value then .pwrRestore else .pwrFail) else (.err, .none)

/-- `on_platform_reset_event` -/
def onPlatformResetEvent (cfg : EventConfiguration) (read : TargetAnswer) (preq : Bool) : Status × AsdEvent :=
  if read.ok then
    if read.value then (.ok, .plrstAssert)
    else (if cfg.resetBreak && !preq then .err else .ok, .plrstDeassrt)
  else (.err, .none)

/-- `on_prdy_event` -/
def onPrdyEvent (cfg : EventConfiguration) (assert deassert : Bool) : Status × AsdEvent :=
  (if cfg.breakAll && (!assert || !cfg.resetBreak && !deassert) then .err else .ok, .prdyEvent)

/-- `target_event`, with `on_xdp_present_event`. -/
def targetEvent (t : TargetHandle) (e : PinEvent) : Status × AsdEvent :=
  if !t.initialized then (.err, .none)
  else
    match e with
    | .quiet => (.ok, .none)
    | .unknown => (.err, .none)
    | .power read => onPowerEvent read
    | .platformReset read preq => onPlatformResetEvent t.eventCfg read preq
    | .prdy assert deassert => onPrdyEvent t.eventCfg assert deassert
    | .xdpPresent => (.ok, .xdpPresent)

/-- `BROADCAST_MESSAGE_ORIGIN_ID`. -/
abbrev broadcastMessageOriginId : BitVec 3 := 7

/-- The message of `send_pin_event`. -/
def pinEventMessage (value : AsdEvent) : AsdMessage where
  header := { MessageHeader.zero with
    sizeLsb := 1, type := jtagType, tag := broadcastMessageOriginId, originId := broadcastMessageOriginId }
  buffer := store (fun _ => 0) 0 [value.value]

/-- `send_pin_event` -/
def sendPinEvent (s : AsdMsg) (value : AsdEvent) : Status × AsdMsg := sendResponse s (pinEventMessage value)

/-- `asd_msg_event`; `h` is the header in `in_msg`. -/
def asdMsgEvent (h : MessageHeader) (s : AsdMsg) (e : PinEvent) : Status × AsdMsg :=
  let r := targetEvent s.targetHandler e
  if r.1 = .ok then
    if r.2 = .xdpPresent then
      (if s.xdpFailEnable then .err else .ok, sendErrorMessage s h asdFailureXdpPresent)
    else if r.2 ≠ .none then sendPinEvent s r.2
    else (.ok, s)
  else (r.1, s)

/-- `process_all_gpio_events` -/
def processAllGpioEvents (h : MessageHeader) : AsdMsg → List PinEvent → Status × AsdMsg
  | s, [] => (.ok, s)
  | s, e :: es =>
    let r := asdMsgEvent h s e
    if r.1 = .ok then processAllGpioEvents h r.2 es else r

/-- Whether `asd_msg_get_fds` reports the descriptors of the target. -/
def asdMsgWatches (m : IncomingMsg) (s : AsdMsg) : Bool := m.header.type ≠ agentControlType && s.targetHandler.initialized

/-- `asd_msg_free` -/
def asdMsgFree (s : AsdMsg) : Status :=
  let jtag := jtagDeinitialize s.jtagHandler
  let i2c := i2cDeinitialize s.ixc
  let target := targetDeinitialize s.targetHandler
  if jtag.1 ≠ .ok ∨ i2c.1 ≠ .ok ∨ target.1 ≠ .ok ∨ vProbeDeinitialize s.vprobeHandler ≠ .ok then .err else .ok

/-! ## The server -/

/-- What is done with a message layer: it is created for a client, it processes a message of a client, it is freed. -/
inductive LayerEvent where
  | connect (sockfd : ℤ)
  | message (sockfd : ℤ)
  | free
  deriving DecidableEq, Repr

/-- `asd_state`, with `instance` of `asd_msg.c`. `asdMsg` is `none` for the null pointer, and `crashed` is set when the program reads
through it. The log keeps what is done with the message layers. -/
structure Server where
  xdpFailEnable : Bool
  authNone : Bool
  session : Session
  asdMsg : Option (IncomingMsg × AsdMsg)
  hasInstance : Bool
  crashed : Bool
  log : List LayerEvent

/-- `init_asd_state`, with the two options of the command line. -/
def Server.init (xdpFailEnable authNone : Bool) (data : Fin maxSessions → Option ℕ) : Server :=
  ⟨xdpFailEnable, authNone, sessionInit data, none, false, false, []⟩

/-- What a pass meets: the times at which `session_getfds` reads the clock, whether the host's descriptor and those of the clients are
ready, the events of the target's descriptors, the connection that is accepted and when, the times of the check for expired sessions,
and, for each connection, how the handshake comes out, the platform and the memory that `asd_msg_init` finds (nothing when it has no
memory), and what arrives. -/
structure ServerPass where
  timeFds : Fin maxSessions → ℤ
  hostReady : Bool
  ready : ℤ → Bool
  events : List PinEvent
  accepted : Option ExtnetConn
  openTime : ℤ
  timeExpired : Fin maxSessions → ℤ
  handshakes : ℤ → Bool
  platform : ℤ → Option (ℕ × (ℕ → UInt8) × Platform)
  arrives : ℤ → Transport

/-- `on_client_disconnect` -/
def onClientDisconnect (s : Server) : Status × Server :=
  match s.asdMsg with
  | none => (.ok, s)
  | some layer => (asdMsgFree layer.2, { s with asdMsg := none, hasInstance := false, log := s.log ++ [.free] })

/-- `on_client_connect`; only one instance is allowed. -/
def onClientConnect (p : ServerPass) (s : Server) (sockfd : ℤ) : Status × Server :=
  if s.hasInstance then (.err, { s with asdMsg := none })
  else
    match p.platform sockfd with
    | none => (.err, { s with asdMsg := none })
    | some (dataSize, msg, platform) =>
      (.ok, { s with
        asdMsg := some (.init dataSize msg, asdMsgInit platform), hasInstance := true, log := s.log ++ [.connect sockfd] })

/-- `session_close` -/
def Server.close (s : Server) (sockfd : ℤ) : Server := { s with session := (sessionClose s.session sockfd).2 }

/-- `ensure_client_authenticated` -/
def Server.ensureAuthenticated (p : ServerPass) (s : Server) (conn : ExtnetConn) : Status × Server :=
  if sessionAlreadyAuthenticated s.session conn = .ok then (.ok, s)
  else if p.handshakes conn.sockfd = false then (.err, s.close conn.sockfd)
  else
    let a := sessionAuthComplete s.session conn.sockfd
    let s := { s with session := a.2 }
    if a.1 = .ok then
      let c := onClientConnect p s conn.sockfd
      if c.1 = .ok then (.ok, c.2) else (.err, (onClientDisconnect c.2).2.close conn.sockfd)
    else (.err, s.close conn.sockfd)

/-- `process_client_message` after its checks: the message is read. -/
def Server.readMessage (p : ServerPass) (s : Server) (sockfd : ℤ) (dataPending : Bool) : Server :=
  match s.asdMsg with
  | none => { s with crashed := true }
  | some (inMsg, layer) =>
    let r := asdMsgRead Transport.read asdLayer
      ⟨inMsg, dataPending, p.arrives sockfd, { layer with xdpFailEnable := s.xdpFailEnable }⟩
    let s := { s with asdMsg := some (r.2.inMsg, r.2.layer), log := s.log ++ [.message sockfd] }
    if r.1 = .ok then { s with session := (sessionSetDataPending s.session sockfd r.2.dataPending).2 }
    else (onClientDisconnect s).2.close sockfd

/-- `process_client_message` -/
def Server.processMessage (p : ServerPass) (s : Server) (fd : PollFd) : Server :=
  match sessionLookupConn s.session fd.fd with
  | none => s
  | some conn =>
    match sessionGetDataPending s.session conn.sockfd with
    | none => s
    | some dataPending =>
      if dataPending || fd.pollin then
        let r := s.ensureAuthenticated p conn
        if r.1 = .ok then r.2.readMessage p conn.sockfd dataPending else r.2
      else s

/-- One round of the loop of `process_all_client_messages`; nothing runs behind a crash. -/
def Server.processStep (p : ServerPass) (s : Server) (fd : PollFd) : Server :=
  if fd.pollin && !s.crashed then s.processMessage p fd else s

/-- `process_all_client_messages` -/
def Server.processMessages (p : ServerPass) (s : Server) (fds : List PollFd) : Server :=
  fds.foldl (Server.processStep p) { s with session := sessionCloseExpiredUnauth s.session p.timeExpired }

/-- `process_new_client` -/
def Server.processNewClient (p : ServerPass) (s : Server) (nGpios : ℕ) (fds : List PollFd) : Server × List PollFd :=
  match p.accepted with
  | none => (s, fds)
  | some conn =>
    let o := sessionOpen s.session conn p.openTime
    let s := { s with session := o.2 }
    if o.1 = .ok ∧ s.authNone = true ∧ gpioFdIndex + nGpios + fds.length < maxFds then (s, fds ++ [⟨conn.sockfd, true⟩])
    else (s, fds)

/-- `close_connection` -/
def Server.closeConnection (s : Server) : Server :=
  match (sessionGetAuthenticatedConn s.session true).2 with
  | none => s
  | some conn =>
    let d := onClientDisconnect s
    if d.1 = .ok then d.2.close conn.sockfd else d.2

/-- The events of the descriptors that are polled. -/
def Server.events (s : Server) (p : ServerPass) : List PinEvent :=
  match s.asdMsg with
  | none => []
  | some (inMsg, layer) => if asdMsgWatches inMsg layer then p.events else []

/-- The call of `process_all_gpio_events`. -/
def Server.processEvents (s : Server) (events : List PinEvent) : Status × Server :=
  match s.asdMsg with
  | none => (.ok, s)
  | some (inMsg, layer) =>
    let r := processAllGpioEvents inMsg.header layer events
    (r.1, { s with asdMsg := some (inMsg, r.2) })

/-- One pass of `request_processing_loop`. -/
def serverPass (s : Server) (p : ServerPass) : Server :=
  if s.crashed then s
  else
    let fds := (sessionGetfds s.session p.timeFds (-1)).1.map fun fd => ⟨fd, p.ready fd⟩
    let r := if p.hostReady then s.processNewClient p (s.events p).length fds else (s, fds)
    let e := r.1.processEvents (s.events p)
    -- when an event fails, the messages wait for the next pass
    if e.1 = .ok then e.2.processMessages p r.2 else e.2.closeConnection

/-! ## Specification -/

/-- What is done with a layer that belongs to a client, or to nobody; nothing, when it does not fit. -/
def LayerEvent.next : Option ℤ → LayerEvent → Option (Option ℤ)
  | none, .connect sockfd => some (some sockfd)
  | some sockfd, .message sockfd' => if sockfd' = sockfd then some (some sockfd) else none
  | some _, .free => some none
  | _, _ => none

/-- The client that the layer belongs to. -/
def owner (log : List LayerEvent) : Option (Option ℤ) := log.foldlM LayerEvent.next none

/-- The descriptor of the authenticated client. -/
def authenticatedFd (s : Session) : Option ℤ := (sessionGetAuthenticatedConn s true).2.map ExtnetConn.sockfd

/-- **The layer belongs to the authenticated client**: it was created for this client, has processed its messages only, and is there;
without such a client it has been freed. -/
structure Server.Owned (s : Server) : Prop where
  owner : BmcAsd.owner s.log = some (authenticatedFd s.session)
  layer : s.asdMsg.isSome = (authenticatedFd s.session).isSome
  crashed : s.crashed = false

/-- An accepted connection has a descriptor that no open one has. -/
def ServerPass.Allowed (s : Server) (p : ServerPass) : Prop :=
  ∀ conn, p.accepted = some conn → (SessionOp.openConn conn p.openTime).Allowed s.session

instance (s : Server) (p : ServerPass) : Decidable (p.Allowed s) :=
  inferInstanceAs (Decidable (∀ conn ∈ p.accepted, (SessionOp.openConn conn p.openTime).Allowed s.session))

/-- When an event fails, the layer can be freed: its client has asked for the remote probes, and the pins can be set back. -/
def ServerPass.Freeable (s : Server) (p : ServerPass) : Prop :=
  ∀ layer ∈ s.asdMsg, (processAllGpioEvents layer.1.header layer.2 (s.events p)).1 ≠ .ok →
    layer.2.vprobeHandler.initialized = true ∧ layer.2.targetHandler.gpios.answer.ok = true

instance (s : Server) (p : ServerPass) : Decidable (p.Freeable s) :=
  inferInstanceAs (Decidable (∀ layer ∈ s.asdMsg, (processAllGpioEvents layer.1.header layer.2 (s.events p)).1 ≠ .ok →
    layer.2.vprobeHandler.initialized = true ∧ layer.2.targetHandler.gpios.answer.ok = true))

/-- The authenticated client is without a layer. -/
structure Server.Orphaned (s : Server) (sockfd : ℤ) : Prop where
  single : s.session.Single
  client : authenticatedFd s.session = some sockfd
  layer : s.asdMsg = none
  crashed : s.crashed = false

/-! ## The authenticated client -/

section Session

variable {s t : Session} {i : Fin maxSessions} {fd : ℤ}

theorem authenticatedFd_of_neg (h : s.nAuthenticatedId < 0) : authenticatedFd s = none := by
  have hfind : (List.finRange maxSessions).find? (fun i : Fin maxSessions => s.nAuthenticatedId = (i : ℕ)) = none := by
    rw [List.find?_eq_none]
    intro i _ hi
    have := of_decide_eq_true hi
    omega
  rw [authenticatedFd, sessionGetAuthenticatedConn, if_pos rfl, hfind]
  rfl

theorem authenticatedFd_of_id (h : s.nAuthenticatedId = (i : ℕ)) : authenticatedFd s = some (s.sessions i).extconn.sockfd := by
  rcases hfind : (List.finRange maxSessions).find? (fun i : Fin maxSessions => s.nAuthenticatedId = (i : ℕ)) with - | k
  · rw [List.find?_eq_none] at hfind
    exact absurd (decide_eq_true h) (hfind i (List.mem_finRange i))
  · have hk : s.nAuthenticatedId = (k : ℕ) := by simpa using List.find?_some hfind
    obtain rfl : k = i := Fin.ext (by omega)
    rw [authenticatedFd, sessionGetAuthenticatedConn, if_pos rfl, hfind]
    rfl

/-- Nobody is authenticated, or the client of a slot is. -/
theorem Session.Single.authenticated (h : s.Single) : s.nAuthenticatedId < 0 ∧ authenticatedFd s = none ∨
    ∃ i, (s.sessions i).bAuthenticated = true ∧ authenticatedFd s = some (s.sessions i).extconn.sockfd := by
  rcases lt_or_ge s.nAuthenticatedId 0 with hneg | hpos
  · exact .inl ⟨hneg, authenticatedFd_of_neg hneg⟩
  · obtain ⟨i, hi⟩ := h.named hpos
    exact .inr ⟨i, (h.auth i).1 hi, authenticatedFd_of_id hi⟩

theorem Session.Single.id_eq (h : s.Single) (hfd : authenticatedFd s = some fd) :
    ∃ i, (s.sessions i).bAuthenticated = true ∧ (s.sessions i).extconn.sockfd = fd := by
  obtain ⟨-, hi⟩ | ⟨i, hauth, hi⟩ := h.authenticated
  · rw [hfd] at hi
    cases hi
  · exact ⟨i, hauth, (Option.some.inj (hfd.symm.trans hi)).symm⟩

/-- Closing a session authenticates nobody. -/
theorem sessionClosePrivate_neg (h : s.nAuthenticatedId < 0) (i : Fin maxSessions) : (sessionClosePrivate s i).nAuthenticatedId < 0 := by
  rw [sessionClosePrivate]
  dsimp only
  split_ifs
  · decide
  · exact h

/-- Only `session_auth_complete` authenticates a client. -/
theorem sessionStep_neg {op : SessionOp} (h : s.nAuthenticatedId < 0) (hop : ∀ fd, op ≠ .authComplete fd) : (sessionStep s op).nAuthenticatedId < 0 := by
  cases op with
  | openConn conn now =>
    simp only [sessionStep, sessionOpen]
    split <;> exact h
  | close fd =>
    simp only [sessionStep, sessionClose]
    split_ifs
    · exact h
    · split
      · exact h
      · exact sessionClosePrivate_neg h _
  | closeAll =>
    refine List.foldlRecOn (motive := fun t : Session => t.nAuthenticatedId < 0) _ _ h fun t ht i _ => ?_
    rw [sessionCloseAllStep]
    split_ifs
    · exact ht
    · exact sessionClosePrivate_neg ht i
  | closeExpiredUnauth now =>
    refine List.foldlRecOn (motive := fun t : Session => t.nAuthenticatedId < 0) _ _ h fun t ht i _ => ?_
    rw [sessionCloseExpiredStep]
    split_ifs
    · exact sessionClosePrivate_neg ht i
    · exact ht
  | authComplete fd => exact absurd rfl (hop fd)
  | setDataPending fd b =>
    simp only [sessionStep, sessionSetDataPending]
    split <;> exact h

/-- **Frame rule.** The other calls leave the authenticated client as it is, unless they are asked to close its connection. -/
theorem authenticatedFd_step (op : SessionOp) (h : s.Single) (ha : op.Allowed s) (hop : ∀ fd, op ≠ .authComplete fd)
    (hclose : ∀ fd, op.Closes fd → authenticatedFd s ≠ some fd) : authenticatedFd (sessionStep s op) = authenticatedFd s := by
  obtain ⟨hneg, hnone⟩ | ⟨i, hauth, hi⟩ := h.authenticated
  · rw [hnone, authenticatedFd_of_neg (sessionStep_neg hneg hop)]
  · obtain ⟨hconn, -, hid⟩ := sessionStep_keeps h ha hauth fun hcloses => hclose _ hcloses hi
    rw [hi, authenticatedFd_of_id (hid.trans ((h.auth i).2 hauth)), hconn]

/-- The authenticated client is gone when its connection is closed. -/
theorem authenticatedFd_close (h : s.Single) (hfd : authenticatedFd s = some fd) :
    authenticatedFd (sessionClose s fd).2 = none := by
  obtain ⟨i, hauth, rfl⟩ := h.id_eq hfd
  have hopen : 0 ≤ (s.sessions i).extconn.sockfd := h.isOpen i hauth
  refine authenticatedFd_of_neg ?_
  rw [sessionClose, if_neg (ne_of_gt (lt_of_lt_of_le (by decide) hopen)), h.find (h.isOpen i hauth)]
  dsimp only [sessionClosePrivate]
  rw [if_pos ((h.id i).trans ((h.auth i).2 hauth).symm)]
  decide

/-- `session_auth_complete` fails and does nothing, or authenticates the client where nobody was. -/
theorem sessionAuthComplete_cases (h : s.Single) (hfind : sessionFindPrivate s fd = some i) :
    (sessionAuthComplete s fd).1 ≠ .ok ∧ (sessionAuthComplete s fd).2 = s ∨
      (sessionAuthComplete s fd).1 = .ok ∧ authenticatedFd s = none ∧ authenticatedFd (sessionAuthComplete s fd).2 = some fd := by
  rw [sessionAuthComplete]
  split_ifs with hid
  · exact .inl ⟨fun heq => Status.noConfusion heq, rfl⟩
  · rw [hfind]
    refine .inr ⟨rfl, authenticatedFd_of_neg (by omega), ?_⟩
    rw [authenticatedFd_of_id (i := i) (h.id i)]
    dsimp only
    rw [Session.setSlot_self, sessionFindPrivate_some hfind]

end Session

/-! ## The invariant -/

/-- The invariant of the server: the table is consistent, the layer belongs to the authenticated client, and `instance` says whether
there is one. -/
structure Server.Inv (s : Server) : Prop where
  single : s.session.Single
  owned : s.Owned
  hasInstance : s.hasInstance = s.asdMsg.isSome

section Rules

variable {p : ServerPass} {s : Server} {conn : ExtnetConn} {inMsg : IncomingMsg} {layer : AsdMsg} {fd : ℤ}

theorem owner_append (log : List LayerEvent) (e : LayerEvent) : owner (log ++ [e]) = (owner log).bind fun o => e.next o := by
  rw [owner, List.foldlM_append]
  exact bind_congr fun o => bind_pure _

theorem inv_init (xdpFailEnable authNone : Bool) (data : Fin maxSessions → Option ℕ) : (Server.init xdpFailEnable authNone data).Inv where
  single := sessionInit_single data
  owned := by
    have hfd : authenticatedFd (sessionInit data) = none := authenticatedFd_of_neg (show noSessionAuthenticated < 0 by decide)
    exact ⟨congrArg some hfd.symm, (congrArg Option.isSome hfd).symm, rfl⟩
  hasInstance := rfl

/-- A call of the session interface that keeps the authenticated client. -/
theorem Server.Inv.session {t : Session} (h : s.Inv) (ht : t.Single) (hfd : authenticatedFd t = authenticatedFd s.session) :
    Server.Inv { s with session := t } where
  single := ht
  owned := ⟨hfd ▸ h.owned.owner, hfd ▸ h.owned.layer, h.owned.crashed⟩
  hasInstance := h.hasInstance

theorem Server.Inv.step (h : s.Inv) (op : SessionOp) (ha : op.Allowed s.session) (hop : ∀ fd, op ≠ .authComplete fd)
    (hclose : ∀ fd, op.Closes fd → authenticatedFd s.session ≠ some fd) :
    Server.Inv { s with session := sessionStep s.session op } :=
  h.session (sessionStep_single h.single ha) (authenticatedFd_step op h.single ha hop hclose)

/-- A client that is not authenticated goes. -/
theorem Server.Inv.close (h : s.Inv) (hfd : authenticatedFd s.session ≠ some fd) : (s.close fd).Inv :=
  h.step (.close fd) trivial (fun _ heq => SessionOp.noConfusion heq) fun _ heq => heq ▸ hfd

/-- The layer does something. -/
theorem Server.Inv.change (h : s.Inv) {layers : IncomingMsg × AsdMsg} (hlayer : s.asdMsg.isSome = true) :
    Server.Inv { s with asdMsg := some layers } where
  single := h.single
  owned := ⟨h.owned.owner, hlayer.symm.trans h.owned.layer, h.owned.crashed⟩
  hasInstance := h.hasInstance.trans hlayer

/-- The layer processes a message of its client. -/
theorem Server.Inv.message (h : s.Inv) (hfd : authenticatedFd s.session = some fd) :
    Server.Inv { s with log := s.log ++ [.message fd] } where
  single := h.single
  owned := ⟨by rw [owner_append, h.owned.owner, hfd]; exact if_pos rfl, h.owned.layer, h.owned.crashed⟩
  hasInstance := h.hasInstance

/-- The layer is there when its client is authenticated. -/
theorem Server.Inv.asdMsg (h : s.Inv) (hfd : authenticatedFd s.session = some fd) : ∃ inMsg layer, s.asdMsg = some (inMsg, layer) := by
  have hsome := h.owned.layer
  rw [hfd] at hsome
  obtain ⟨⟨inMsg, layer⟩, heq⟩ := Option.isSome_iff_exists.1 hsome
  exact ⟨inMsg, layer, heq⟩

/-- **The client goes**: its layer is freed and its session closed, whatever `asd_msg_free` returns. -/
theorem Server.Inv.disconnect (h : s.Inv) (hfd : authenticatedFd s.session = some fd) : ((onClientDisconnect s).2.close fd).Inv := by
  obtain ⟨inMsg, layer, hlayer⟩ := h.asdMsg hfd
  have hnone := authenticatedFd_close h.single hfd
  rw [onClientDisconnect, hlayer]
  refine ⟨sessionClose_single h.single fd, ⟨?_, ?_, h.owned.crashed⟩, rfl⟩
  · dsimp only [Server.close]
    rw [owner_append, h.owned.owner, hfd, hnone]
    rfl
  · dsimp only [Server.close]
    rw [hnone]
    rfl

/-- **A client comes** when nobody is authenticated: its layer is created, or there is none. -/
theorem Server.Inv.connect {t : Session} (h : s.Inv) (hnone : authenticatedFd s.session = none) (ht : t.Single)
    (hfd : authenticatedFd t = some fd) :
    (onClientConnect p { s with session := t } fd).1 = .ok ∧ (onClientConnect p { s with session := t } fd).2.Inv ∨
      (onClientConnect p { s with session := t } fd).1 = .err ∧
        (onClientConnect p { s with session := t } fd).2 = { s with session := t } := by
  have hlayer := h.owned.layer
  rw [hnone, Option.isSome_none] at hlayer
  have hinst : ¬ s.hasInstance = true := by rw [h.hasInstance, hlayer]; decide
  rw [onClientConnect, if_neg hinst]
  rcases p.platform fd with - | ⟨dataSize, msg, platform⟩
  · refine .inr ⟨rfl, ?_⟩
    rw [Option.isSome_eq_false_iff, Option.isNone_iff_eq_none] at hlayer
    dsimp only
    rw [hlayer]
  · refine .inl ⟨rfl, ht, ⟨?_, ?_, h.owned.crashed⟩, rfl⟩
    · dsimp only
      rw [owner_append, h.owned.owner, hnone, hfd]
      rfl
    · dsimp only
      rw [hfd]
      rfl

end Rules

/-! ## One pass -/

section Pass

variable {p : ServerPass} {s : Server} {conn : ExtnetConn} {inMsg : IncomingMsg} {layer : AsdMsg} {fd : ℤ} {i : Fin maxSessions}

/-- **Authentication** keeps the invariant, and ends well with the authenticated client. -/
theorem ensureAuthenticated_inv (h : s.Inv) (hopen : 0 ≤ conn.sockfd) (hfind : sessionFindPrivate s.session conn.sockfd = some i) :
    (s.ensureAuthenticated p conn).2.Inv ∧
      ((s.ensureAuthenticated p conn).1 = .ok → authenticatedFd (s.ensureAuthenticated p conn).2.session = some conn.sockfd) := by
  have herr : Status.err ≠ .ok := by decide
  rw [Server.ensureAuthenticated]
  by_cases halready : sessionAlreadyAuthenticated s.session conn = .ok
  · rw [if_pos halready]
    have hauth := (sessionAlreadyAuthenticated_of_find hopen hfind).1 halready
    refine ⟨h, fun _ => ?_⟩
    rw [authenticatedFd_of_id ((h.single.auth i).2 hauth), sessionFindPrivate_some hfind]
  rw [if_neg halready]
  -- a client that is turned away was not authenticated
  have hother : authenticatedFd s.session ≠ some conn.sockfd := by
    intro hfd
    obtain ⟨k, hauth, hk⟩ := h.single.id_eq hfd
    obtain rfl : k = i := h.single.distinct k i (h.single.isOpen k hauth) (hk.trans (sessionFindPrivate_some hfind).symm)
    exact halready ((sessionAlreadyAuthenticated_of_find hopen hfind).2 hauth)
  by_cases hhandshake : p.handshakes conn.sockfd = false
  · rw [if_pos hhandshake]
    exact ⟨h.close hother, fun heq => absurd heq herr⟩
  rw [if_neg hhandshake]
  dsimp only
  obtain ⟨hfails, hsame⟩ | ⟨hok, hnone, hfd⟩ := sessionAuthComplete_cases h.single hfind
  · rw [if_neg hfails, hsame]
    exact ⟨h.close hother, fun heq => absurd heq herr⟩
  rw [if_pos hok]
  have hallowed : (SessionOp.authComplete conn.sockfd).Allowed s.session := by
    refine ⟨i, ?_, sessionFindPrivate_some hfind⟩
    rw [Session.IsOpen, sessionFindPrivate_some hfind]
    exact hopen
  have hsingle := sessionAuthComplete_single h.single hallowed
  obtain ⟨hcok, hinv⟩ | ⟨hcerr, hsame⟩ := h.connect (p := p) hnone hsingle hfd
  · rw [if_pos hcok]
    refine ⟨hinv, fun _ => ?_⟩
    have hsession : (onClientConnect p { s with session := (sessionAuthComplete s.session conn.sockfd).2 } conn.sockfd).2.session =
        (sessionAuthComplete s.session conn.sockfd).2 := by
      rw [onClientConnect]
      split_ifs
      · rfl
      · split <;> rfl
    rw [hsession]
    exact hfd
  · -- without a layer the client goes again
    rw [if_neg (hcerr ▸ herr), hsame]
    refine ⟨?_, fun heq => absurd heq herr⟩
    have hlayer := h.owned.layer
    rw [hnone, Option.isSome_none, Option.isSome_eq_false_iff, Option.isNone_iff_eq_none] at hlayer
    rw [onClientDisconnect, hlayer]
    dsimp only [Server.close]
    have hclosed := authenticatedFd_close hsingle hfd
    have hinv := h.session (sessionClose_single hsingle conn.sockfd) (hclosed.trans hnone.symm)
    rwa [hlayer] at hinv

/-- **A message** of the authenticated client is processed by its layer. -/
theorem readMessage_inv (h : s.Inv) (hfd : authenticatedFd s.session = some fd) (dataPending : Bool) :
    (s.readMessage p fd dataPending).Inv := by
  obtain ⟨inMsg, layer, hlayer⟩ := h.asdMsg hfd
  rw [Server.readMessage, hlayer]
  dsimp only
  generalize asdMsgRead Transport.read asdLayer _ = r
  have hsome : s.asdMsg.isSome = true := by
    rw [hlayer]
    rfl
  have hread : Server.Inv { s with asdMsg := some (r.2.inMsg, r.2.layer), log := s.log ++ [.message fd] } :=
    (h.message hfd).change hsome
  split_ifs with hok
  · exact hread.step (.setDataPending fd r.2.dataPending) trivial (fun _ heq => SessionOp.noConfusion heq) fun _ heq => absurd heq id
  · exact hread.disconnect hfd

theorem processMessage_inv (h : s.Inv) (pfd : PollFd) : (s.processMessage p pfd).Inv := by
  rw [Server.processMessage]
  rcases hlookup : sessionLookupConn s.session pfd.fd with - | conn
  · exact h
  obtain ⟨i, hfind, hopen, hconn, hfd⟩ := sessionLookupConn_some hlookup
  rw [← hfd] at hfind
  dsimp only
  rcases sessionGetDataPending s.session conn.sockfd with - | dataPending
  · exact h
  dsimp only
  by_cases hready : (dataPending || pfd.pollin) = true
  · rw [if_pos hready]
    obtain ⟨hinv, hauth⟩ := ensureAuthenticated_inv (p := p) h (hconn ▸ hopen) hfind
    by_cases hok : (s.ensureAuthenticated p conn).1 = .ok
    · rw [if_pos hok]
      exact readMessage_inv hinv (hauth hok) dataPending
    · rw [if_neg hok]
      exact hinv
  · rw [if_neg hready]
    exact h

theorem processMessages_inv (h : s.Inv) (fds : List PollFd) : (s.processMessages p fds).Inv := by
  have hexpired : Server.Inv { s with session := sessionCloseExpiredUnauth s.session p.timeExpired } :=
    h.step (.closeExpiredUnauth p.timeExpired) trivial (fun _ heq => SessionOp.noConfusion heq) fun _ heq => absurd heq id
  refine List.foldlRecOn _ _ hexpired fun t ht fd _ => ?_
  rw [Server.processStep]
  split_ifs
  · exact processMessage_inv ht fd
  · exact ht

/-- **A new client** changes nothing but the table; the authenticated client and the clients that are ready stay as they are. -/
theorem newClient_spec (hs : s.session.Single) (hp : p.Allowed s) (nGpios : ℕ) (fds : List PollFd) :
    ∃ t fds', (if p.hostReady then s.processNewClient p nGpios fds else (s, fds)) = ({ s with session := t }, fds') ∧
      t.Single ∧ authenticatedFd t = authenticatedFd s.session ∧
        ∀ i, s.session.IsOpen i → ((⟨(s.session.sessions i).extconn.sockfd, true⟩ : PollFd) ∈ fds' ↔
          (⟨(s.session.sessions i).extconn.sockfd, true⟩ : PollFd) ∈ fds) := by
  have hnone : ∃ t fds', (s, fds) = (({ s with session := t } : Server), fds') ∧ t.Single ∧
      authenticatedFd t = authenticatedFd s.session ∧
        ∀ i, s.session.IsOpen i → ((⟨(s.session.sessions i).extconn.sockfd, true⟩ : PollFd) ∈ fds' ↔
          (⟨(s.session.sessions i).extconn.sockfd, true⟩ : PollFd) ∈ fds) :=
    ⟨s.session, fds, rfl, hs, rfl, fun _ _ => Iff.rfl⟩
  split_ifs with hhost
  · rw [Server.processNewClient]
    rcases haccepted : p.accepted with - | conn
    · exact hnone
    · have hallowed := hp conn haccepted
      have hsingle := sessionOpen_single hs hallowed
      have hkept : authenticatedFd (sessionOpen s.session conn p.openTime).2 = authenticatedFd s.session :=
        authenticatedFd_step (.openConn conn p.openTime) hs hallowed (fun _ heq => SessionOp.noConfusion heq)
          fun _ heq => absurd heq id
      dsimp only
      split_ifs
      · refine ⟨_, _, rfl, hsingle, hkept, fun i hopen => ?_⟩
        rw [List.mem_append, List.mem_singleton]
        exact or_iff_left fun heq => hallowed.2 i hopen (PollFd.mk.inj heq).1
      · exact ⟨_, _, rfl, hsingle, hkept, fun _ _ => Iff.rfl⟩
  · exact hnone

/-! ### A failing event -/

/-- An event changes nothing but the connection. -/
theorem asdMsgEvent_eq (h : MessageHeader) (l : AsdMsg) (e : PinEvent) : ∃ n, (asdMsgEvent h l e).2 = { l with network := n } := by
  have hresponse : ∀ m, ∃ n, (sendResponse l m).2 = { l with network := n } := by
    intro m
    rw [sendResponse]
    split
    · exact ⟨l.network, rfl⟩
    · exact ⟨_, rfl⟩
  rw [asdMsgEvent]
  split
  · split
    · rw [sendErrorMessage_eq]
      exact ⟨_, rfl⟩
    · split
      · exact hresponse _
      · exact ⟨l.network, rfl⟩
  · exact ⟨l.network, rfl⟩

theorem processAllGpioEvents_eq (h : MessageHeader) (l : AsdMsg) (es : List PinEvent) :
    ∃ n, (processAllGpioEvents h l es).2 = { l with network := n } := by
  induction es generalizing l with
  | nil => exact ⟨l.network, rfl⟩
  | cons e es ih =>
    obtain ⟨n, hn⟩ := asdMsgEvent_eq h l e
    rw [processAllGpioEvents]
    split_ifs
    · obtain ⟨n', hn'⟩ := ih (asdMsgEvent h l e).2
      exact ⟨n', by rw [hn', hn]⟩
    · exact ⟨n, hn⟩

/-- **Freeing** succeeds when the target handler and the remote probes were initialised and the pins can be set back. -/
theorem asdMsgFree_iff (l : AsdMsg) : asdMsgFree l = .ok ↔
    l.targetHandler.initialized = true ∧ l.vprobeHandler.initialized = true ∧ l.targetHandler.gpios.answer.ok = true := by
  rw [asdMsgFree, jtagDeinitialize, i2cDeinitialize, targetDeinitialize, vProbeDeinitialize]
  rcases l.targetHandler.initialized with - | -
  · simp
  · rcases l.vprobeHandler.initialized with - | - <;> rcases hok : l.targetHandler.gpios.answer.ok with - | - <;>
      simp [TargetHandle.call, TargetAnswer.status, hok]

/-- The target is polled once it is initialised. -/
theorem initialized_of_event (hlayer : s.asdMsg = some (inMsg, layer))
    (hfails : (processAllGpioEvents inMsg.header layer (s.events p)).1 ≠ .ok) : layer.targetHandler.initialized = true := by
  rw [Server.events, hlayer] at hfails
  dsimp only at hfails
  split_ifs at hfails with hwatches
  · rw [asdMsgWatches, Bool.and_eq_true] at hwatches
    exact hwatches.2
  · exact absurd rfl hfails

/-- **A failing event** closes the connection, or frees the layer only. -/
theorem closeConnection_cases (h : s.Inv) (hlayer : s.asdMsg = some (inMsg, layer)) :
    asdMsgFree layer = .ok ∧ s.closeConnection.Inv ∨
      asdMsgFree layer ≠ .ok ∧ s.closeConnection = { s with asdMsg := none, hasInstance := false, log := s.log ++ [.free] } := by
  have hsome := h.owned.layer
  rw [hlayer, Option.isSome_some] at hsome
  obtain ⟨fd, hfd⟩ := Option.isSome_iff_exists.1 hsome.symm
  obtain ⟨conn, hconn, rfl⟩ := Option.map_eq_some_iff.1 hfd
  have hdisconnect := h.disconnect hfd
  rw [Server.closeConnection, hconn]
  rw [onClientDisconnect, hlayer] at hdisconnect ⊢
  dsimp only at hdisconnect ⊢
  by_cases hfree : asdMsgFree layer = .ok
  · rw [if_pos hfree]
    exact .inl ⟨hfree, hdisconnect⟩
  · rw [if_neg hfree]
    exact .inr ⟨hfree, rfl⟩

/-- **One pass** keeps the invariant if the layer can be freed when an event fails; else its client is left without it. -/
theorem serverPass_cases (h : s.Inv) (hp : p.Allowed s) : p.Freeable s ∧ (serverPass s p).Inv ∨
    ¬ p.Freeable s ∧ ∃ fd, authenticatedFd s.session = some fd ∧ (serverPass s p).Orphaned fd := by
  rw [serverPass, if_neg (h.owned.crashed ▸ Bool.false_ne_true)]
  dsimp only
  generalize (sessionGetfds s.session p.timeFds (-1)).1.map (fun fd => (⟨fd, p.ready fd⟩ : PollFd)) = fds
  obtain ⟨t, fds', hnew, ht, hkept, -⟩ := newClient_spec h.single hp (s.events p).length fds
  rw [hnew]
  have hinv := h.session ht hkept
  rcases hlayer : s.asdMsg with - | ⟨inMsg, layer⟩
  · have hfree : p.Freeable s := fun layer hmem => absurd (hlayer ▸ hmem) (Option.not_mem_none layer)
    rw [Server.processEvents]
    rw [hlayer] at hinv
    exact .inl ⟨hfree, processMessages_inv hinv fds'⟩
  · have hfreeable : p.Freeable s ↔ ((processAllGpioEvents inMsg.header layer (s.events p)).1 ≠ .ok → asdMsgFree layer = .ok) := by
      rw [asdMsgFree_iff]
      constructor
      · exact fun hfree hfails => ⟨initialized_of_event hlayer hfails, hfree _ hlayer hfails⟩
      · rintro hfree ⟨inMsg', layer'⟩ hmem hfails
        obtain ⟨rfl, rfl⟩ := Prod.mk.inj (Option.some.inj (hlayer.symm.trans hmem))
        exact (hfree hfails).2
    obtain ⟨n, hn⟩ := processAllGpioEvents_eq inMsg.header layer (s.events p)
    rw [hfreeable, Server.processEvents]
    dsimp only
    have hchanged : Server.Inv { s with
        session := t, asdMsg := some (inMsg, (processAllGpioEvents inMsg.header layer (s.events p)).2) } :=
      hinv.change (by rw [hlayer]; rfl)
    by_cases hok : (processAllGpioEvents inMsg.header layer (s.events p)).1 = .ok
    · rw [if_pos hok]
      exact .inl ⟨fun hfails => absurd hok hfails, processMessages_inv hchanged fds'⟩
    · rw [if_neg hok]
      have hfree : asdMsgFree (processAllGpioEvents inMsg.header layer (s.events p)).2 = asdMsgFree layer := by rw [hn]; rfl
      obtain ⟨hfreed, hclosed⟩ | ⟨hfails, hclosed⟩ := closeConnection_cases hchanged rfl
      · exact .inl ⟨fun _ => hfree ▸ hfreed, hclosed⟩
      · rw [hclosed]
        have hsome := h.owned.layer
        rw [hlayer, Option.isSome_some] at hsome
        obtain ⟨fd, hfd⟩ := Option.isSome_iff_exists.1 hsome.symm
        exact .inr ⟨fun hall => hfails (hfree.trans (hall hok)), fd, hfd, ht, hkept.trans hfd, rfl, h.owned.crashed⟩

/-! ### A client without a layer -/

theorem Server.Orphaned.session {t : Session} (h : s.Orphaned fd) (ht : t.Single) (hfd : authenticatedFd t = authenticatedFd s.session) :
    Server.Orphaned { s with session := t } fd :=
  ⟨ht, hfd.trans h.client, h.layer, h.crashed⟩

theorem Server.Orphaned.step (h : s.Orphaned fd) (op : SessionOp) (ha : op.Allowed s.session) (hop : ∀ fd, op ≠ .authComplete fd)
    (hclose : ∀ fd', op.Closes fd' → fd' ≠ fd) : Server.Orphaned { s with session := sessionStep s.session op } fd :=
  h.session (sessionStep_single h.single ha)
    (authenticatedFd_step op h.single ha hop fun fd' hcloses heq => hclose fd' hcloses (Option.some.inj (heq.symm.trans h.client)))

/-- Its next message is read through the null pointer. -/
theorem processMessage_orphan (h : s.Orphaned fd) : (s.processMessage p ⟨fd, true⟩).crashed = true := by
  obtain ⟨i, hauth, rfl⟩ := h.single.id_eq h.client
  have hopen : 0 ≤ (s.session.sessions i).extconn.sockfd := h.single.isOpen i hauth
  have hfind := h.single.find (h.single.isOpen i hauth)
  have hlookup : sessionLookupConn s.session (s.session.sessions i).extconn.sockfd = some (s.session.sessions i).extconn := by
    rw [sessionLookupConn, hfind]
    exact if_pos hopen
  rw [Server.processMessage, hlookup]
  dsimp only
  rw [sessionGetDataPending, hfind, Option.map_some]
  dsimp only
  rw [Bool.or_true, if_pos rfl, Server.ensureAuthenticated, if_pos ((sessionAlreadyAuthenticated_of_find hopen hfind).2 hauth),
    if_pos rfl, Server.readMessage, h.layer]

/-- Other clients are turned away. -/
theorem processMessage_other (h : s.Orphaned fd) {pfd : PollFd} (hne : pfd.fd ≠ fd) : (s.processMessage p pfd).Orphaned fd := by
  have herr : Status.err ≠ .ok := by decide
  rw [Server.processMessage]
  rcases hlookup : sessionLookupConn s.session pfd.fd with - | conn
  · exact h
  obtain ⟨i, hfind, hopen, hconn, hfd⟩ := sessionLookupConn_some hlookup
  rw [← hfd] at hfind hne
  dsimp only
  rcases sessionGetDataPending s.session conn.sockfd with - | dataPending
  · exact h
  have hclosed : (s.close conn.sockfd).Orphaned fd :=
    h.step (.close conn.sockfd) trivial (fun _ heq => SessionOp.noConfusion heq) fun _ heq => heq ▸ hne
  have hother : sessionAlreadyAuthenticated s.session conn ≠ .ok := by
    intro halready
    have hauth := (sessionAlreadyAuthenticated_of_find (hconn ▸ hopen) hfind).1 halready
    have hfd' := authenticatedFd_of_id ((h.single.auth i).2 hauth)
    rw [h.client, sessionFindPrivate_some hfind] at hfd'
    exact hne (Option.some.inj hfd').symm
  have hensure : s.ensureAuthenticated p conn = (.err, s.close conn.sockfd) := by
    rw [Server.ensureAuthenticated, if_neg hother]
    split_ifs
    · rfl
    · obtain ⟨hfails, hsame⟩ | ⟨-, hnone, -⟩ := sessionAuthComplete_cases h.single hfind
      · dsimp only
        rw [if_neg hfails, hsame]
      · rw [h.client] at hnone
        cases hnone
  dsimp only
  rw [hensure, if_neg herr]
  split_ifs
  · exact hclosed
  · exact h

theorem foldl_crashed (fds : List PollFd) (h : s.crashed = true) : (fds.foldl (Server.processStep p) s).crashed = true := by
  refine List.foldlRecOn (motive := fun t : Server => t.crashed = true) _ _ h fun t ht pfd _ => ?_
  rw [Server.processStep, ht, Bool.not_true, Bool.and_false]
  exact ht

theorem processClients_orphan (h : s.Orphaned fd) (fds : List PollFd) :
    ((⟨fd, true⟩ : PollFd) ∈ fds → (fds.foldl (Server.processStep p) s).crashed = true) ∧
      ((⟨fd, true⟩ : PollFd) ∉ fds → (fds.foldl (Server.processStep p) s).Orphaned fd) := by
  induction fds generalizing s with
  | nil => exact ⟨fun hmem => absurd hmem List.not_mem_nil, fun _ => h⟩
  | cons pfd fds ih =>
    rw [List.foldl_cons]
    by_cases heq : pfd = ⟨fd, true⟩
    · subst heq
      have hcrash : (Server.processStep p s ⟨fd, true⟩).crashed = true := by
        rw [Server.processStep, h.crashed]
        exact processMessage_orphan h
      exact ⟨fun _ => foldl_crashed fds hcrash, fun hnot => absurd List.mem_cons_self hnot⟩
    · have hstep : (Server.processStep p s pfd).Orphaned fd := by
        rw [Server.processStep]
        split_ifs with hready
        · refine processMessage_other h fun hfd => heq ?_
          rw [Bool.and_eq_true] at hready
          exact congrArg₂ PollFd.mk hfd hready.1
        · exact h
      obtain ⟨hcrash, hkept⟩ := ih hstep
      refine ⟨fun hmem => hcrash ((List.mem_cons.1 hmem).resolve_left fun h => heq h.symm), fun hnot => hkept fun hmem => hnot ?_⟩
      exact List.mem_cons_of_mem pfd hmem

/-- **One pass with an orphaned client** crashes when a message of this client arrives; else the client stays as it is. -/
theorem serverPass_orphan (h : s.Orphaned fd) (hp : p.Allowed s) :
    (p.ready fd = true → (serverPass s p).crashed = true) ∧ (p.ready fd = false → (serverPass s p).Orphaned fd) := by
  obtain ⟨i, hauth, hi⟩ := h.single.id_eq h.client
  rw [serverPass, if_neg (h.crashed ▸ Bool.false_ne_true)]
  dsimp only
  obtain ⟨t, fds, hnew, ht, hkept, hmem⟩ := newClient_spec h.single hp (s.events p).length
    ((sessionGetfds s.session p.timeFds (-1)).1.map fun fd => (⟨fd, p.ready fd⟩ : PollFd))
  have hready : (⟨fd, true⟩ : PollFd) ∈ fds ↔ p.ready fd = true := by
    rw [← hi, hmem i (h.single.isOpen i hauth), List.mem_map]
    constructor
    · rintro ⟨fd', -, heq⟩
      obtain ⟨rfl, hready⟩ := PollFd.mk.inj heq
      exact hready
    · intro hready
      exact ⟨_, (mem_sessionGetfds h.single).2 ⟨i, h.single.isOpen i hauth, rfl⟩, by rw [hready]⟩
  rw [hnew, Server.processEvents]
  dsimp only
  rw [h.layer]
  dsimp only
  rw [if_pos rfl, Server.processMessages]
  have hexpired : Server.Orphaned { s with session := sessionCloseExpiredUnauth t p.timeExpired, asdMsg := none } fd := by
    have hclients := (h.session ht hkept).step (.closeExpiredUnauth p.timeExpired) trivial (fun _ heq => SessionOp.noConfusion heq)
      fun _ heq => absurd heq id
    dsimp only at hclients
    rwa [h.layer] at hclients
  obtain ⟨hcrash, hstays⟩ := processClients_orphan (p := p) hexpired fds
  exact ⟨fun hyes => hcrash (hready.2 hyes), fun hno => hstays fun hin => absurd (hready.1 hin) (hno ▸ Bool.false_ne_true)⟩

end Pass

/-! ## Runs -/

section Run

variable {s : Server} {ps : List ServerPass} {fd : ℤ} {xdpFailEnable authNone : Bool} {data : Fin maxSessions → Option ℕ}

theorem owned_run (h : s.Inv) (hps : AllSteps serverPass (fun s p => p.Allowed s) s ps) :
    AllSteps serverPass (fun s p => (serverPass s p).Owned) s ps ↔ AllSteps serverPass (fun s p => p.Freeable s) s ps := by
  induction ps generalizing s with
  | nil => exact Iff.rfl
  | cons p ps ih =>
    rw [AllSteps, AllSteps]
    obtain ⟨hfree, hinv⟩ | ⟨hfails, fd, -, horphan⟩ := serverPass_cases h hps.1
    · exact and_congr (iff_of_true hinv.owned hfree) (ih hinv hps.2)
    · refine iff_of_false (fun hall => ?_) fun hall => hfails hall.1
      have hlayer := hall.1.layer
      rw [horphan.layer, horphan.client] at hlayer
      cases hlayer

/-- **One client, one layer.** In a run of the server, the message layer is created for the client that has authenticated, processes
the messages of this client only and is freed before another one is created, and the program never reads through the null pointer, in
every state reached, if and only if, in every pass in which an event of the target fails, the client has asked for its remote probes
and the pins can be set back. -/
theorem serverRun_owned (hps : AllSteps serverPass (fun s p => p.Allowed s) (.init xdpFailEnable authNone data) ps) :
    AllSteps serverPass (fun s p => (serverPass s p).Owned) (.init xdpFailEnable authNone data) ps ↔
      AllSteps serverPass (fun s p => p.Freeable s) (.init xdpFailEnable authNone data) ps :=
  owned_run (inv_init xdpFailEnable authNone data) hps

/-- A pass on quiet devices in which the clients of `ready` are ready, and each sends the bytes `sent`. -/
def quietServerPass (ready : ℤ → Bool) (events : List PinEvent) (sent : List UInt8) : ServerPass where
  timeFds := fun _ => 0
  hostReady := false
  ready := ready
  events := events
  accepted := none
  openTime := 0
  timeExpired := fun _ => 0
  handshakes := fun _ => true
  platform := fun _ => some (0, fun _ => 0, Platform.quiet .software)
  arrives := fun _ => ⟨sent, fun n => n, fun _ _ => false⟩

/-- A client connects on the descriptor 4 and sends an empty JTAG message; then a debug connector is plugged in. -/
def pluggedIn : List ServerPass :=
  [{ quietServerPass (fun _ => false) [] [0x20, 0, 0, 0] with hostReady := true, accepted := some ⟨4, none⟩ },
    quietServerPass (fun _ => false) [.xdpPresent] []]

theorem serverRun_owned_pluggedIn :
    AllSteps serverPass (fun s p => (serverPass s p).Owned) (.init true true fun _ => none) pluggedIn ↔
      AllSteps serverPass (fun s p => p.Freeable s) (.init true true fun _ => none) pluggedIn :=
  serverRun_owned (by decide)

theorem inv_run (h : s.Inv) (hps : AllSteps serverPass (fun s p => p.Allowed s) s ps)
    (hfree : AllSteps serverPass (fun s p => p.Freeable s) s ps) : (ps.foldl serverPass s).Inv := by
  induction ps generalizing s with
  | nil => exact h
  | cons p ps ih =>
    obtain ⟨-, hinv⟩ | ⟨hfails, -⟩ := serverPass_cases h hps.1
    · exact ih hinv hps.2 hfree.2
    · exact absurd hfree.1 hfails

theorem crashed_run (h : s.crashed = true) : (ps.foldl serverPass s).crashed = true := by
  refine List.foldlRecOn (motive := fun t : Server => t.crashed = true) _ _ h fun t ht p _ => ?_
  rw [serverPass, if_pos ht]
  exact ht

theorem orphan_run (h : s.Orphaned fd) (hps : AllSteps serverPass (fun s p => p.Allowed s) s ps) :
    (ps.foldl serverPass s).crashed = true ↔ ∃ p ∈ ps, p.ready fd = true := by
  induction ps generalizing s with
  | nil => exact iff_of_false (h.crashed ▸ Bool.false_ne_true) fun hex => absurd hex.choose_spec.1 List.not_mem_nil
  | cons p ps ih =>
    obtain ⟨hcrash, hstays⟩ := serverPass_orphan h hps.1
    rw [List.foldl_cons, List.exists_mem_cons_iff]
    rcases hready : p.ready fd with - | -
    · rw [ih (hstays hready) hps.2, or_iff_right Bool.false_ne_true]
    · exact iff_of_true (crashed_run (hcrash hready)) (.inl rfl)

end Run

end BmcAsd
