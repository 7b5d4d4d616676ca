import Bmc.Vnc.SessionTable

/-!
# The master of the VNC sessions

* `handlekeyEvent`, `handleMouseEvent`: the input that is passed to the host;
* `OneMaster`: at most one client has full permission, and it is recorded;
* **`oneMaster_run`**: this holds after any events.
-/

namespace BmcVnc

open BmcLib

variable {s : Server}

/-! ## Input -/

/-- `QUEUE_FULL_WAIT_TIME`. -/
abbrev queueFullWaitTime : ℤ := 3

/-- `handlekeyEvent`: the event is passed on. -/
def handlekeyEvent (powerCons : ℤ) (cl : Client) : Bool := powerCons = 0 && cl.viewOnly = false

/-- `handleMouseEvent`: the event is passed on. `mouseQueueFull` is the time at which the queue was found
full, or zero; `uptime` is the time now, if `sysinfo` gives it. -/
def handleMouseEvent (powerCons mouseQueueFull : ℤ) (uptime : Option ℤ) (cl : Client) : Bool :=
  let waited := uptime.any fun now => queueFullWaitTime < now - mouseQueueFull
  let mouseQueueFull := if mouseQueueFull ≠ 0 ∧ waited then 0 else mouseQueueFull
  (powerCons = 0 && cl.viewOnly = false) && mouseQueueFull = 0

theorem viewOnly_of_key {powerCons : ℤ} {cl : Client} (h : handlekeyEvent powerCons cl = true) :
    cl.viewOnly = false := by
  rw [handlekeyEvent, Bool.and_eq_true, decide_eq_true_iff, decide_eq_true_iff] at h
  exact h.2

theorem viewOnly_of_mouse {powerCons mouseQueueFull : ℤ} {uptime : Option ℤ} {cl : Client}
    (h : handleMouseEvent powerCons mouseQueueFull uptime cl = true) : cl.viewOnly = false := by
  rw [handleMouseEvent, Bool.and_eq_true] at h
  exact viewOnly_of_key h.1

/-! ## Masters -/

/-- The clients with full permission. -/
def masters (clients : List Client) : List Client := clients.filter fun cl => cl.viewOnly = false

/-- **At most one client has full permission**, `g_master_present` says whether there is one, and only its
input is passed on. -/
structure OneMaster (s : Server) : Prop where
  atMostOne : (masters s.clients).length ≤ 1
  recorded : s.masterPresent = true ↔ ∃ cl ∈ s.clients, cl.viewOnly = false
  key : ∀ powerCons, ∀ cl ∈ s.clients, handlekeyEvent powerCons cl = true → masters s.clients = [cl]
  mouse : ∀ powerCons mouseQueueFull uptime, ∀ cl ∈ s.clients,
    handleMouseEvent powerCons mouseQueueFull uptime cl = true → masters s.clients = [cl]

/-- **The record of the master** is the number of clients with full permission. -/
structure Led (s : Server) : Prop where
  count : s.actvSessCount = s.clients.length
  data : ∀ cl ∈ s.clients, cl.clientData = true
  masters : (masters s.clients).length = if s.masterPresent then 1 else 0

theorem mem_masters {clients : List Client} {cl : Client} :
    cl ∈ masters clients ↔ cl ∈ clients ∧ cl.viewOnly = false := by
  rw [masters, List.mem_filter, decide_eq_true_iff]

theorem masters_cons_of_full {cl : Client} (hfull : cl.viewOnly = false) (clients : List Client) :
    masters (cl :: clients) = cl :: masters clients :=
  List.filter_cons_of_pos (by simpa using hfull)

theorem masters_cons_of_view {cl : Client} (hview : ¬ cl.viewOnly = false) (clients : List Client) :
    masters (cl :: clients) = masters clients :=
  List.filter_cons_of_neg (by simpa using hview)

theorem Led.oneMaster (h : Led s) : OneMaster s := by
  have hle : (BmcVnc.masters s.clients).length ≤ 1 := by
    rw [h.masters]
    split_ifs <;> omega
  have honly : ∀ cl ∈ s.clients, cl.viewOnly = false → BmcVnc.masters s.clients = [cl] := by
    intro cl hcl hfull
    have hmem := mem_masters.2 ⟨hcl, hfull⟩
    have hlen : (BmcVnc.masters s.clients).length = 1 := hle.antisymm (List.length_pos_of_mem hmem)
    obtain ⟨cl', heq⟩ := List.length_eq_one_iff.1 hlen
    rw [heq, List.mem_singleton] at hmem
    rw [heq, hmem]
  refine ⟨hle, ?_, fun powerCons cl hcl hkey => honly cl hcl (viewOnly_of_key hkey),
    fun powerCons mouseQueueFull uptime cl hcl hmouse => honly cl hcl (viewOnly_of_mouse hmouse)⟩
  constructor
  · intro hpresent
    have hlen := h.masters
    rw [if_pos hpresent] at hlen
    obtain ⟨cl, heq⟩ := List.length_eq_one_iff.1 hlen
    exact ⟨cl, mem_masters.1 (heq ▸ List.mem_singleton_self cl)⟩
  · rintro ⟨cl, hcl, hfull⟩
    by_contra habsent
    have hlen := h.masters
    rw [if_neg habsent, honly cl hcl hfull] at hlen
    cases hlen

/-! ## Events -/

/-- A new client becomes the master if there is none. -/
theorem led_connect (h : Led s) (fd : ℤ) (a : Arrival) : Led (newclient s fd a) := by
  by_cases ha : s.accepts a
  swap
  · rwa [newclient, if_neg ha]
  have hcount : ¬ s.actvSessCount < 0 := by
    rw [h.count]
    omega
  rw [newclient, if_pos ha, if_neg hcount]
  refine ⟨?_, List.forall_mem_cons.2 ⟨rfl, h.data⟩, ?_⟩
  · dsimp only
    rw [h.count, List.length_cons]
    push_cast
    rfl
  dsimp only
  rw [if_pos rfl]
  by_cases hfirst : s.actvSessCount + 1 = 1
  · have hnil : s.clients = [] := by
      rw [h.count] at hfirst
      exact List.length_eq_zero_iff.1 (by omega)
    rw [if_pos hfirst, hnil]
    rfl
  · rw [if_neg hfirst]
    have hlen := h.masters
    cases hpresent : s.masterPresent with
    | true =>
      rw [hpresent, if_pos rfl] at hlen
      rw [masters_cons_of_view Bool.noConfusion]
      exact hlen
    | false =>
      rw [hpresent, if_neg (by decide)] at hlen
      rw [masters_cons_of_full rfl, List.length_cons]
      exact congrArg Nat.succ hlen

/-- When the master is gone, this is recorded. -/
theorem led_gone {k : ℕ} {cl : Client} (h : Led s) (hk : s.clients[k]? = some cl) (heap : ℕ → ℤ) :
    Led (clientgone (gone s k cl) cl heap) := by
  have hperm := perm_eraseIdx hk
  have hdata := h.data cl (List.mem_of_getElem? hk)
  have hcount : countAfter (gone s k cl) cl = (s.clients.eraseIdx k).length := by
    rw [countAfter, if_pos hdata]
    change s.actvSessCount - 1 = _
    rw [h.count, hperm.length_eq, List.length_cons]
    push_cast
    omega
  refine ⟨hcount, fun cl' hcl' => h.data cl' ((List.eraseIdx_sublist _ _).subset hcl'), ?_⟩
  have hlen : (masters s.clients).length = (masters (cl :: s.clients.eraseIdx k)).length :=
    (hperm.filter _).length_eq
  change (masters (s.clients.eraseIdx k)).length =
    if (if cl.clientData ∧ cl.viewOnly = false then false else s.masterPresent) then 1 else 0
  by_cases hfull : cl.viewOnly = false
  · rw [masters_cons_of_full hfull, List.length_cons] at hlen
    have hle := h.oneMaster.atMostOne
    have hmaster : cl.clientData = true ∧ cl.viewOnly = false := ⟨hdata, hfull⟩
    rw [if_pos hmaster, if_neg (by decide)]
    omega
  · rw [masters_cons_of_view hfull] at hlen
    have hmaster : ¬ (cl.clientData = true ∧ cl.viewOnly = false) := fun hc => hfull hc.2
    rw [if_neg hmaster, ← h.masters]
    exact hlen.symm

theorem led_step (h : Led s) (e : Event) : Led (s.step e) := by
  cases e with
  | connect fd a => exact led_connect h fd a
  | close k =>
    have hdata : (s.clients.modify k fun cl => { cl with isOpen := false }).map Client.clientData =
        s.clients.map Client.clientData := map_modify_of_eq _ fun _ => rfl
    have hview : (s.clients.modify k fun cl => { cl with isOpen := false }).map Client.viewOnly =
        s.clients.map Client.viewOnly := map_modify_of_eq _ fun _ => rfl
    have hmasters : ∀ clients : List Client,
        (masters clients).length = (clients.map Client.viewOnly).count false := by
      intro clients
      rw [masters, ← List.countP_eq_length_filter, List.count, List.countP_map]
      exact List.countP_congr fun cl _ => by simp
    refine ⟨h.count.trans (congrArg Nat.cast (List.length_modify _ _ _).symm), fun cl hcl => ?_, ?_⟩
    · have hmem : cl.clientData ∈ s.clients.map Client.clientData := hdata ▸ List.mem_map_of_mem hcl
      obtain ⟨cl', hcl', heq⟩ := List.mem_map.1 hmem
      exact heq ▸ h.data cl' hcl'
    · rw [hmasters, Server.step, hview, ← hmasters]
      exact h.masters
  | timeout k =>
    rw [Server.step]
    split
    · exact h
    · split_ifs
      · exact ⟨h.count, h.data, h.masters⟩
      · exact h
  | sweep k kvm heap =>
    cases hk : s.clients[k]? with
    | none =>
      rw [Server.step, sweep, hk]
      exact h
    | some cl =>
      rw [step_sweep hk]
      split_ifs
      · exact led_gone h hk heap
      · exact ⟨h.count, h.data, h.masters⟩

/-! ## Runs -/

theorem led_run (h : Led s) (events : List Event) : Led (events.foldl Server.step s) := by
  induction events generalizing s with
  | nil => exact h
  | cons e es ih => exact ih (led_step h e)

/-- **At most one master.** After any events at most one client has full permission, the record says
whether there is one, and only its input is passed on. -/
theorem oneMaster_run (maxSession : ℕ) (events : List Event) :
    OneMaster (events.foldl Server.step (.start maxSession)) :=
  (led_run ⟨rfl, by simp [Server.start], rfl⟩ events).oneMaster

end BmcVnc
