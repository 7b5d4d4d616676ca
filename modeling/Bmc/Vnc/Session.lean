import Mathlib.Tactic

/-!
# Sessions of the VNC server

`vncserver.c`: clients come and go, each with a slot of `sessionInfo`, and one of them is the master.

* `Client`, `Session`, `Server`: the clients of the library, the slots and the counters;
* `setSessionInfo`, `setTimedOut`, `isCleanUpSession`, `getActiveSocketList`, `onClientGone`: the slots;
* `newclient`, `clientgone`: the callbacks; `sweep`: the loop that closes clients;
* `Event`, `Server.step`: what can happen.
-/

namespace BmcVnc

/-! ## State -/

/-- A client in the list of the library. Its socket is -1 after `rfbCloseClient`, and `fd` is what it was
before. -/
structure Client where
  fd : ℤ
  isOpen : Bool
  viewOnly : Bool
  clientData : Bool
  deriving DecidableEq, Repr

/-- `cl->sock`. -/
def Client.sock (cl : Client) : ℤ := if cl.isOpen then cl.fd else -1

/-- `enum vnc_session_status`. -/
inductive SessionStatus where
  | unused
  | active
  | timedOut
  | disconnected
  | cleanUp
  deriving DecidableEq, Repr

/-- `VNCSessionInfo`, as far as it is used here. -/
structure Session where
  sock : ℤ
  status : SessionStatus
  deriving DecidableEq, Repr

/-- A slot after `memset`. -/
def Session.zero : Session := ⟨0, .unused⟩

/-- The server. `sessionInfo` has `vnc_max_session` slots, and the head of the clients is the newest. -/
structure Server where
  clients : List Client
  sessionInfo : List Session
  actvSessCount : ℤ
  masterPresent : Bool

/-- `vnc_max_session`. -/
def Server.maxSession (s : Server) : ℕ := s.sessionInfo.length

/-- A server that was just started. -/
def Server.start (maxSession : ℕ) : Server := ⟨[], List.replicate maxSession .zero, 0, false⟩

/-! ## Slots -/

/-- `setSessionInfo`: the first slot that is not used is filled. -/
def setSessionInfo (fd : ℤ) : List Session → List Session
  | [] => []
  | slot :: slots =>
    if slot.sock ≤ 0 then ⟨fd, .active⟩ :: slots else slot :: setSessionInfo fd slots

/-- `setTimedOut`: the first slot of a socket. -/
def setTimedOut (fd : ℤ) : List Session → List Session
  | [] => []
  | slot :: slots =>
    if slot.sock = fd then { slot with status := .timedOut } :: slots else slot :: setTimedOut fd slots

/-- `cleanUpInvalidSession`; a place behind the table is no slot of it. -/
def cleanUpInvalidSession (sessionInfo : List Session) (sessionIndex : ℕ) : List Session :=
  sessionInfo.set sessionIndex ⟨-1, .unused⟩

/-- The search of `isCleanUpSession`, from the last slot down. -/
def findDown (sessionInfo : List Session) (fd : ℤ) : ℕ → Option (ℕ × Session)
  | 0 => none
  | sessionIndex + 1 =>
    match sessionInfo[sessionIndex]? with
    | none => findDown sessionInfo fd sessionIndex
    | some slot =>
      if slot.sock = fd then some (sessionIndex, slot) else findDown sessionInfo fd sessionIndex

/-- `isCleanUpSession` with session management: whether the client is to be closed, and the slots. -/
def isCleanUpSession (sessionInfo : List Session) (fd : ℤ) : Bool × List Session :=
  if 0 < fd then
    match findDown sessionInfo fd sessionInfo.length with
    | none => (false, sessionInfo)
    | some (sessionIndex, slot) =>
      if slot.status = .timedOut ∨ slot.status = .disconnected then
        (true, cleanUpInvalidSession sessionInfo sessionIndex)
      else (false, sessionInfo)
  else (false, sessionInfo)

/-- The loop of `getActiveSocketList`, after `count` clients. -/
def activeSocketLoop (actvSessCount : ℤ) : ℕ → List Client → List ℤ
  | _, [] => []
  | count, cl :: clients =>
    if actvSessCount < count then [] else cl.sock :: activeSocketLoop actvSessCount (count + 1) clients

/-- `getActiveSocketList`: what is written to the array. -/
def getActiveSocketList (clients : List Client) (actvSessCount : ℤ) : List ℤ :=
  activeSocketLoop actvSessCount 0 clients

/-- The array of `actvSessCount` entries has a socket. `heap` is what the array holds where nothing was
written. -/
def isActiveSocket (actvSessCount : ℤ) (written : List ℤ) (heap : ℕ → ℤ) (sock : ℤ) : Bool :=
  (List.range actvSessCount.toNat).any fun sockIndex => sock = (written[sockIndex]?).getD (heap sockIndex)

/-- The search of `onClientGone`: the first slot whose socket is not active, or where the slots end. -/
def staleIndex (sessionInfo : List Session) (active : ℤ → Bool) : ℕ :=
  sessionInfo.findIdx fun slot => !active slot.sock

/-- `onClientGone`. -/
def onClientGone (sessionInfo : List Session) (active : ℤ → Bool) : List Session :=
  cleanUpInvalidSession sessionInfo (staleIndex sessionInfo active)

/-! ## Callbacks -/

/-- What `newclient` meets: whether automatic switching is disabled, whether VNC is the KVM client before
and after the request for it, whether the request could be sent, and whether the video driver could be told
to capture JPEG. -/
structure Arrival where
  disableAutoSwitch : Bool
  kvmBefore : Bool
  requestSent : Bool
  kvmAfter : Bool
  jpegEnabled : Bool

/-- `newclient` accepts the client. -/
def Server.accepts (s : Server) (a : Arrival) : Prop :=
  ¬ (a.disableAutoSwitch = false ∧ s.actvSessCount ≤ 0 ∧ a.kvmBefore = false ∧ a.requestSent = false) ∧
    a.kvmAfter = true ∧ s.actvSessCount < s.maxSession ∧ a.jpegEnabled = true

instance (s : Server) (a : Arrival) : Decidable (s.accepts a) := inferInstanceAs (Decidable (_ ∧ _))

/-- `newclient`. A client that is refused leaves the list of the library again. -/
def newclient (s : Server) (fd : ℤ) (a : Arrival) : Server :=
  if s.accepts a then
    let actvSessCount := if s.actvSessCount < 0 then 1 else s.actvSessCount + 1
    let viewOnly := if actvSessCount = 1 then false else s.masterPresent
    { clients := ⟨fd, true, viewOnly, true⟩ :: s.clients
      sessionInfo := setSessionInfo fd s.sessionInfo
      actvSessCount := actvSessCount
      masterPresent := true }
  else s

/-- The number of sessions after a client is gone. -/
def countAfter (s : Server) (cl : Client) : ℤ :=
  if cl.clientData then s.actvSessCount - 1 else s.actvSessCount

/-- `clientgone` for a client that the library has taken from its list. -/
def clientgone (s : Server) (cl : Client) (heap : ℕ → ℤ) : Server :=
  let masterPresent := if cl.clientData ∧ cl.viewOnly = false then false else s.masterPresent
  let actvSessCount := countAfter s cl
  let written := getActiveSocketList s.clients actvSessCount
  let sessionInfo := onClientGone s.sessionInfo (isActiveSocket actvSessCount written heap)
  { s with
    sessionInfo := if actvSessCount = 0 then List.replicate s.maxSession .zero else sessionInfo
    actvSessCount := actvSessCount
    masterPresent := masterPresent }

/-- The loop over the clients closes this one, as `isCleanUpSession` has decided. -/
def closes (kvm : Bool) (cl : Client) (cleanUp : Bool) : Prop :=
  (kvm = false ∧ cl.sock ≠ -1) ∨ (cl.sock < 0 ∧ cl.clientData = true) ∨ cleanUp = true

instance (kvm : Bool) (cl : Client) (cleanUp : Bool) : Decidable (closes kvm cl cleanUp) :=
  inferInstanceAs (Decidable (_ ∨ _))

/-- The server when the loop over the clients has looked at the slots of the client at place `k`. -/
def Server.looked (s : Server) (cl : Client) : Server :=
  { s with sessionInfo := (isCleanUpSession s.sessionInfo cl.sock).2 }

/-- The server when the library has taken the client at place `k` from its list. -/
def Server.without (s : Server) (k : ℕ) : Server := { s with clients := s.clients.eraseIdx k }

/-- The loop over the clients at place `k`. -/
def sweep (s : Server) (k : ℕ) (kvm : Bool) (heap : ℕ → ℤ) : Server :=
  match s.clients[k]? with
  | none => s
  | some cl =>
    if closes kvm cl (isCleanUpSession s.sessionInfo cl.sock).1 then
      clientgone ((s.looked cl).without k) cl heap
    else s.looked cl

/-! ## Events -/

/-- What can happen: a connection, a client that closes its connection or stays silent for too long, and a
turn of the loop over the clients. -/
inductive Event where
  | connect (fd : ℤ) (a : Arrival)
  | close (k : ℕ)
  | timeout (k : ℕ)
  | sweep (k : ℕ) (kvm : Bool) (heap : ℕ → ℤ)

/-- A socket that the system can give: no socket of a client that is open. -/
def Event.Possible (s : Server) : Event → Prop
  | connect fd _ => 0 < fd ∧ ∀ cl ∈ s.clients, cl.isOpen = true → cl.fd ≠ fd
  | _ => True

/-- The server after an event. -/
def Server.step (s : Server) : Event → Server
  | .connect fd a => newclient s fd a
  | .close k => { s with clients := s.clients.modify k fun cl => { cl with isOpen := false } }
  | .timeout k =>
    match s.clients[k]? with
    | none => s
    | some cl => if cl.isOpen then { s with sessionInfo := setTimedOut cl.fd s.sessionInfo } else s
  | .sweep k kvm heap => BmcVnc.sweep s k kvm heap

/-- A condition on every event of a run, on the server before it. -/
def EveryStep (P : Server → Event → Prop) : Server → List Event → Prop
  | _, [] => True
  | s, e :: es => e.Possible s → P s e ∧ EveryStep P (s.step e) es

end BmcVnc
