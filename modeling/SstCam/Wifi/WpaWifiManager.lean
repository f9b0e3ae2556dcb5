import SstCam.Control.Device
import SstCam.Wifi.WpaP2pParse

/-!
# WpaWifiManager

The adapter to `wpa_supplicant` (`adapters/control/wifi/wpa_supplicant/wpa-wifi-manager.cpp`): a
command goes out on the control socket and the next datagram that comes in is taken for its reply;
the announcement of the group is looked for among the datagrams after that. What the socket does
during a call is given (`ControlLine`), the bytes of a datagram taken as characters.

The adapter keeps the contract the control plane is modelled on (`Implements`): what it remembers
of the group between calls is what the contract's manager has of it.
-/

namespace SstCam.Wpa
set_option autoImplicit false
open Delimited

/-! ## The control socket -/

def recvBufSize : Nat := 4096

/-- The control socket during a call: whether it can be opened, whether each send to come succeeds
(when nothing is said, it does), what each receive to come brings, a datagram or a time-out (when
nothing is said, a time-out), and the commands that went out. -/
structure ControlLine where
  opens : Bool := true
  sends : List Bool := []
  incoming : List (Option (List Char)) := []
  outgoing : List String := []
  deriving DecidableEq, Repr

/-- What the buffer holds of a datagram. -/
def received (datagram : List Char) : List Char :=
  datagram.take (recvBufSize - 1)

namespace ControlLine

def send (cmd : String) (l : ControlLine) : ControlLine × Bool :=
  if l.sends.headD true then ({ l with sends := l.sends.tail, outgoing := l.outgoing ++ [cmd] }, true)
  else ({ l with sends := l.sends.tail }, false)

def recv (l : ControlLine) : ControlLine × Option (List Char) :=
  ({ l with incoming := l.incoming.tail }, (l.incoming.headD none).map received)

/-- A command on the open socket, and the datagram taken for its reply. -/
def command (cmd : String) (l : ControlLine) : ControlLine × Option (List Char) :=
  if (l.send cmd).2 then (l.send cmd).1.recv else ((l.send cmd).1, none)

end ControlLine

/-! ## The manager -/

inductive WifiMode where
  | off
  | p2pGroupOwner
  deriving DecidableEq, Repr

structure WifiState where
  mode : WifiMode := .off
  connected : Bool := false
  ssid : String := ""
  ipAddress : String := ""
  deriving DecidableEq, Repr

def goIpAddress : String := "192.168.49.1"
def goRole : String := "GO"
def maxEventReads : Nat := 20

structure WpaWifiManager where
  sockOpen : Bool := false
  state : WifiState := {}
  groupInterface : String := ""
  deriving DecidableEq, Repr

def mentions (msg : List Char) : Bool :=
  (after groupStarted msg).isSome

namespace WpaWifiManager

def openCtrlSocket (opens : Bool) (m : WpaWifiManager) : WpaWifiManager × Bool :=
  if m.sockOpen then (m, true) else ({ m with sockOpen := opens }, opens)

def closeCtrlSocket (m : WpaWifiManager) : WpaWifiManager :=
  { m with sockOpen := false }

def sendCommand (cmd : String) (m : WpaWifiManager) (l : ControlLine) :
    WpaWifiManager × ControlLine × Option (List Char) :=
  let (m, opened) := m.openCtrlSocket l.opens
  if !opened then (m, l, none) else (m, l.command cmd)

/-- Up to that many datagrams, until one mentions the event. A time-out or an empty datagram ends it. -/
def readUntil : Nat → ControlLine → ControlLine × Option (List Char)
  | 0, l => (l, none)
  | reads + 1, l =>
    match l.recv with
    | (l, none) => (l, none)
    | (l, some []) => (l, none)
    | (l, some (c :: msg)) => if mentions (c :: msg) then (l, some (c :: msg)) else readUntil reads l

/-- What the caller is told of a group. -/
def groupOf (parsed : ParsedGroup) : WifiDirectGroup where
  ssid := parsed.ssid
  psk := parsed.passphrase
  groupInterface := parsed.interface
  groupOwnerIp := goIpAddress
  role := goRole

/-- The rest of the call, with the datagram that is taken for the reply to `P2P_GROUP_ADD`. -/
def heard (m : WpaWifiManager) (l : ControlLine) (reply : Option (List Char)) :
    WpaWifiManager × ControlLine × Option WifiDirectGroup :=
  match reply with
  | none => (m, l, none)
  | some reply =>
    if !"OK".toList.isPrefixOf reply then (m, l, none)
    else
      match readUntil maxEventReads l with
      | (l, none) => (m, l, none)
      | (l, some event) =>
        match parseGroupStarted event with
        | none => (m, l, none)
        | some parsed =>
          ({ m with
              groupInterface := parsed.interface
              state := { mode := .p2pGroupOwner, connected := true, ssid := parsed.ssid, ipAddress := goIpAddress } },
            l, some (groupOf parsed))

def startP2pGroupOwner (m : WpaWifiManager) (l : ControlLine) :
    WpaWifiManager × ControlLine × Option WifiDirectGroup :=
  let (m, opened) := m.openCtrlSocket l.opens
  if !opened then (m, l, none)
  else
    let (m, l, _) := m.sendCommand "ATTACH" l
    let (m, l, reply) := m.sendCommand "P2P_GROUP_ADD" l
    heard m l reply

def stop (m : WpaWifiManager) (l : ControlLine) : WpaWifiManager × ControlLine :=
  let (m, l) :=
    if m.sockOpen then
      if m.groupInterface ≠ "" then
        let (m, l, _) := m.sendCommand ("P2P_GROUP_REMOVE " ++ m.groupInterface) l
        (m, l)
      else
        let (m, l, _) := m.sendCommand "P2P_GROUP_REMOVE *" l
        (m, l)
    else (m, l)
  (closeCtrlSocket { m with groupInterface := "", state := {} }, l)

/-! ## What a call comes to -/

/-- The dialogue up to the datagram taken for the reply to `P2P_GROUP_ADD`. -/
def asked (l : ControlLine) : ControlLine × Option (List Char) :=
  (l.command "ATTACH").1.command "P2P_GROUP_ADD"

theorem openCtrlSocket_eq (opens : Bool) (m : WpaWifiManager) :
    m.openCtrlSocket opens = ({ m with sockOpen := m.sockOpen || opens }, m.sockOpen || opens) := by
  obtain ⟨sockOpen, state, groupInterface⟩ := m
  cases sockOpen <;> rfl

theorem sendCommand_open (cmd : String) {m : WpaWifiManager} (isOpen : m.sockOpen = true) (l : ControlLine) :
    m.sendCommand cmd l = (m, l.command cmd) := by
  simp [sendCommand, openCtrlSocket, isOpen]

theorem startP2pGroupOwner_closed {m : WpaWifiManager} {l : ControlLine} (h : (m.sockOpen || l.opens) = false) :
    m.startP2pGroupOwner l = (m, l, none) := by
  obtain ⟨sockOpen, state, groupInterface⟩ := m
  rw [Bool.or_eq_false_iff] at h
  obtain ⟨rfl, closed⟩ := h
  simp [startP2pGroupOwner, openCtrlSocket, closed]

theorem startP2pGroupOwner_open {m : WpaWifiManager} {l : ControlLine} (h : (m.sockOpen || l.opens) = true) :
    m.startP2pGroupOwner l = heard { m with sockOpen := true } (asked l).1 (asked l).2 := by
  simp only [startP2pGroupOwner, openCtrlSocket_eq, h, Bool.not_true, Bool.false_eq_true, if_false]
  simp only [sendCommand_open]
  rfl

/-! ## The datagram that is read as the announcement -/

/-- Of the next `reads` datagrams the first that mentions the event, none missing or empty before it. -/
def FirstMention (reads : Nat) (incoming : List (Option (List Char))) (event : List Char) : Prop :=
  ∃ (earlier : List (List Char)) (d : List Char) (later : List (Option (List Char))),
    incoming = earlier.map some ++ some d :: later ∧ earlier.length < reads ∧
    (∀ e ∈ earlier, e ≠ [] ∧ mentions (received e) = false) ∧ mentions (received d) = true ∧ received d = event

theorem mentions_nil : mentions [] = false := by decide

theorem received_ne {d : List Char} : received d ≠ [] ↔ d ≠ [] := by
  cases d with
  | nil => simp [received]
  | cons c d => simp [received, recvBufSize]

theorem firstMention_zero {incoming : List (Option (List Char))} {event : List Char} :
    ¬ FirstMention 0 incoming event := by
  rintro ⟨earlier, d, later, -, short, -⟩
  exact Nat.not_lt_zero _ short

theorem firstMention_silent {reads : Nat} {incoming : List (Option (List Char))} {event : List Char}
    (silent : incoming.headD none = none) : ¬ FirstMention reads incoming event := by
  rintro ⟨earlier, d, later, rfl, -⟩
  cases earlier <;> simp at silent

theorem firstMention_cons {reads : Nat} {d : List Char} {incoming : List (Option (List Char))} {event : List Char} :
    FirstMention (reads + 1) (some d :: incoming) event ↔
      (mentions (received d) = true ∧ received d = event) ∨
        (d ≠ [] ∧ mentions (received d) = false ∧ FirstMention reads incoming event) := by
  constructor
  · rintro ⟨earlier, d', later, shape, short, before, here⟩
    cases earlier with
    | nil =>
      simp only [List.map_nil, List.nil_append, List.cons.injEq, Option.some.injEq] at shape
      exact .inl (shape.1 ▸ here)
    | cons e earlier =>
      simp only [List.map_cons, List.cons_append, List.cons.injEq, Option.some.injEq] at shape
      obtain ⟨rfl, rfl⟩ := shape
      rw [List.forall_mem_cons] at before
      exact .inr ⟨before.1.1, before.1.2, earlier, d', later, rfl, Nat.lt_of_succ_lt_succ short, before.2, here⟩
  · rintro (here | ⟨nonempty, silent, earlier, d', later, rfl, short, before, here⟩)
    · exact ⟨[], d, incoming, rfl, Nat.succ_pos _, by simp, here⟩
    · have all := List.forall_mem_cons.2 ⟨⟨nonempty, silent⟩, before⟩
      exact ⟨d :: earlier, d', later, rfl, Nat.succ_lt_succ short, all, here⟩

theorem readUntil_eq_some_iff (reads : Nat) (l : ControlLine) (event : List Char) :
    (readUntil reads l).2 = some event ↔ FirstMention reads l.incoming event := by
  induction reads generalizing l with
  | zero => exact iff_of_false (by simp [readUntil]) firstMention_zero
  | succ reads ih =>
    obtain ⟨opens, sends, incoming, outgoing⟩ := l
    cases incoming with
    | nil => exact iff_of_false (by simp [readUntil, ControlLine.recv]) (firstMention_silent rfl)
    | cons d incoming =>
      cases d with
      | none => exact iff_of_false (by simp [readUntil, ControlLine.recv]) (firstMention_silent rfl)
      | some d =>
        rw [firstMention_cons]
        simp only [readUntil, ControlLine.recv, List.headD_cons, Option.map_some, List.tail_cons]
        cases bytes : received d with
        | nil =>
          have empty : ¬ d ≠ [] := fun ne => received_ne.2 ne bytes
          simp [mentions_nil, empty]
        | cons c msg =>
          have nonempty : d ≠ [] := received_ne.1 (by simp [bytes])
          cases here : mentions (c :: msg) with
          | true => simp [here]
          | false => simpa [here, nonempty] using ih _

/-! ## The commands that go out -/

theorem readUntil_outgoing (reads : Nat) (l : ControlLine) : (readUntil reads l).1.outgoing = l.outgoing := by
  induction reads generalizing l with
  | zero => rfl
  | succ reads ih =>
    have kept : l.recv.1.outgoing = l.outgoing := rfl
    unfold readUntil
    split
    · rename_i came
      rwa [came] at kept
    · rename_i came
      rwa [came] at kept
    · rename_i came
      rw [came] at kept
      split
      · exact kept
      · rw [ih, kept]

theorem heard_outgoing (m : WpaWifiManager) (l : ControlLine) (reply : Option (List Char)) :
    (heard m l reply).2.1.outgoing = l.outgoing := by
  unfold heard
  split
  · rfl
  · split
    · rfl
    · have kept := readUntil_outgoing maxEventReads l
      split
      · rename_i found
        rw [found] at kept
        exact kept
      · rename_i found
        rw [found] at kept
        split
        · exact kept
        · exact kept

theorem command_outgoing (cmd : String) (l : ControlLine) :
    (l.command cmd).1.outgoing = if l.sends.headD true = true then l.outgoing ++ [cmd] else l.outgoing := by
  unfold ControlLine.command ControlLine.send
  by_cases sent : l.sends.headD true = true
  · rw [if_pos sent, if_pos sent]
    rfl
  · rw [if_neg sent, if_neg sent]
    rfl

/-- All groups are a target of their own. -/
theorem removeAll : "P2P_GROUP_REMOVE *" = "P2P_GROUP_REMOVE " ++ "*" := by decide

theorem stop_outgoing (m : WpaWifiManager) (l : ControlLine) :
    (m.stop l).2.outgoing =
      if m.sockOpen = true ∧ l.sends.headD true = true then
        l.outgoing ++ ["P2P_GROUP_REMOVE " ++ if m.groupInterface ≠ "" then m.groupInterface else "*"]
      else l.outgoing := by
  by_cases isOpen : m.sockOpen = true
  · by_cases remembered : m.groupInterface ≠ ""
    · simp only [stop, isOpen, remembered, if_true, sendCommand_open, command_outgoing, true_and, ne_eq, not_false_iff]
    · simp only [stop, isOpen, remembered, if_true, if_false, sendCommand_open, command_outgoing, true_and, removeAll]
  · simp only [stop, isOpen, if_false, false_and, Bool.false_eq_true]

/-! ## What a start returns -/

/-- What the manager remembers of a group. -/
def remembering (m : WpaWifiManager) (parsed : ParsedGroup) : WpaWifiManager :=
  { m with
    groupInterface := parsed.interface
    state := { mode := .p2pGroupOwner, connected := true, ssid := parsed.ssid, ipAddress := goIpAddress } }

theorem groupOf_inj {p q : ParsedGroup} : groupOf p = groupOf q ↔ p = q := by
  obtain ⟨_, _, _⟩ := p
  obtain ⟨_, _, _⟩ := q
  simp only [groupOf, WifiDirectGroup.mk.injEq, ParsedGroup.mk.injEq]
  tauto

theorem heard_eq_none_or (m : WpaWifiManager) (l : ControlLine) (reply : Option (List Char)) :
    ((heard m l reply).1 = m ∧ (heard m l reply).2.2 = none) ∨
      ∃ parsed, (heard m l reply).1 = m.remembering parsed ∧ (heard m l reply).2.2 = some (groupOf parsed) := by
  unfold heard
  split
  · exact .inl ⟨rfl, rfl⟩
  · split
    · exact .inl ⟨rfl, rfl⟩
    · split
      · exact .inl ⟨rfl, rfl⟩
      · split
        · exact .inl ⟨rfl, rfl⟩
        · exact .inr ⟨_, rfl, rfl⟩

/-- The datagram taken for the reply says yes, and the first mention after it announces a group. -/
theorem heard_eq_some_iff (m : WpaWifiManager) (l : ControlLine) (reply : Option (List Char)) (parsed : ParsedGroup) :
    (heard m l reply).2.2 = some (groupOf parsed) ↔
      ∃ r, reply = some r ∧ "OK".toList <+: r ∧
        ∃ event, FirstMention maxEventReads l.incoming event ∧ parseGroupStarted event = some parsed := by
  cases reply with
  | none => simp [heard]
  | some r =>
    by_cases ok : "OK".toList <+: r
    · have yes : (!"OK".toList.isPrefixOf r) = false := by simpa [List.isPrefixOf_iff_prefix] using ok
      simp only [← readUntil_eq_some_iff, Option.some.injEq, exists_eq_left', ok, true_and]
      simp only [heard, yes, Bool.false_eq_true, if_false]
      cases found : readUntil maxEventReads l with
      | mk l' event =>
        cases event with
        | none => simp
        | some event =>
          cases read : parseGroupStarted event with
          | none => simp [read]
          | some parsed' => simp [read, groupOf_inj]
    · have no : (!"OK".toList.isPrefixOf r) = true := by
        rwa [Bool.not_eq_true', Bool.eq_false_iff, Ne, List.isPrefixOf_iff_prefix]
      refine iff_of_false (by simp only [heard, no, if_true, reduceCtorEq, not_false_iff]) ?_
      rintro ⟨r', same, yes, -⟩
      exact ok (Option.some.inj same ▸ yes)

/-- Without the socket nothing is returned or changed; with it, what is made of the reply. -/
theorem startP2pGroupOwner_eq_some_iff (m : WpaWifiManager) (l : ControlLine) (parsed : ParsedGroup) :
    (m.startP2pGroupOwner l).2.2 = some (groupOf parsed) ↔
      (m.sockOpen || l.opens) = true ∧ ∃ reply, (asked l).2 = some reply ∧ "OK".toList <+: reply ∧
        ∃ event, FirstMention maxEventReads (asked l).1.incoming event ∧ parseGroupStarted event = some parsed := by
  cases h : m.sockOpen || l.opens with
  | false => simp [startP2pGroupOwner_closed h]
  | true => rw [startP2pGroupOwner_open h, heard_eq_some_iff, eq_self, true_and]

/-- A start that returns nothing remembers nothing new; one that returns a group remembers it. -/
theorem startP2pGroupOwner_cases (m : WpaWifiManager) (l : ControlLine) :
    ((m.startP2pGroupOwner l).1 = { m with sockOpen := m.sockOpen || l.opens } ∧
        (m.startP2pGroupOwner l).2.2 = none) ∨
      ∃ parsed, (m.startP2pGroupOwner l).1 = ({ m with sockOpen := true } : WpaWifiManager).remembering parsed ∧
        (m.startP2pGroupOwner l).2.2 = some (groupOf parsed) := by
  cases reached : m.sockOpen || l.opens with
  | false =>
    obtain ⟨sockOpen, state, groupInterface⟩ := m
    obtain rfl : sockOpen = false := (Bool.or_eq_false_iff.1 reached).1
    rw [startP2pGroupOwner_closed reached]
    exact .inl ⟨rfl, rfl⟩
  | true =>
    rw [startP2pGroupOwner_open reached]
    exact heard_eq_none_or _ _ _

/-! ## The contract -/

/-- The manager remembers the group that stands by the contract. -/
def Implements (m : WpaWifiManager) (w : SstCam.WpaWifiManager) : Prop :=
  match w.group with
  | none => m.groupInterface = "" ∧ m.state = {}
  | some group => m.groupInterface = group.groupInterface ∧
      m.state = { mode := .p2pGroupOwner, connected := true, ssid := group.ssid, ipAddress := group.groupOwnerIp }

theorem implements_startP2pGroupOwner {m : WpaWifiManager} {w : SstCam.WpaWifiManager} (h : m.Implements w)
    (l : ControlLine) :
    (m.startP2pGroupOwner l).1.Implements (w.startP2pGroupOwner (m.startP2pGroupOwner l).2.2).1 ∧
      (w.startP2pGroupOwner (m.startP2pGroupOwner l).2.2).2 = (m.startP2pGroupOwner l).2.2 := by
  rcases startP2pGroupOwner_cases m l with ⟨same, none⟩ | ⟨parsed, now, formed⟩
  · rw [same, none]
    exact ⟨h, rfl⟩
  · rw [now, formed]
    exact ⟨⟨rfl, rfl⟩, rfl⟩

theorem stop_fst (m : WpaWifiManager) (l : ControlLine) : (m.stop l).1 = {} := by
  obtain ⟨sockOpen, state, groupInterface⟩ := m
  cases sockOpen with
  | false => rfl
  | true =>
    by_cases remembered : groupInterface ≠ ""
    · simp [stop, remembered, sendCommand_open, closeCtrlSocket]
    · simp [stop, remembered, sendCommand_open, closeCtrlSocket]

theorem implements_stop (m : WpaWifiManager) (w : SstCam.WpaWifiManager) (l : ControlLine) :
    (m.stop l).1.Implements w.stop := by
  rw [stop_fst]
  exact ⟨rfl, rfl⟩

end WpaWifiManager

end SstCam.Wpa
