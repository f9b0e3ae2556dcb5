import SstCam.Wifi.WpaWifiManager

/-!
# Which datagram is taken for the reply

Replies and unsolicited events come in on one socket, and whatever comes first after a command is
taken for its reply. An event before the reply to `ATTACH` shifts every later reply by one, so that
this reply stands in for the one to `P2P_GROUP_ADD`; any other event before the second reply is taken
for it and ends the call. A group announced in time is thus found exactly if no event comes in
before the replies, or a single one before the first (`startP2pGroupOwner_finds_iff`).
-/

namespace SstCam.Wpa
set_option autoImplicit false
open SstCam.Wpa.WpaWifiManager

/-- Of the datagrams read the first that mentions a group announces this one. -/
def Announces (group : ParsedGroup) (incoming : List (Option (List Char))) : Prop :=
  ∃ event, FirstMention maxEventReads incoming event ∧ parseGroupStarted event = some group

theorem mentions_of_parse {event : List Char} {group : ParsedGroup} (h : parseGroupStarted event = some group) :
    mentions event = true := by
  unfold mentions
  cases found : Delimited.after groupStarted event with
  | some rest => rfl
  | none => simp [parseGroupStarted, parseGroupInterface, found] at h

theorem parse_received (a : Announcement) : parseGroupStarted (received a.text) = some a.group :=
  a.parseGroupStarted_take (Nat.le_refl _)

/-- Where only the announcement mentions a group, it is found if it is among the datagrams read. -/
theorem announces_quiet_iff (a : Announcement) {earlier : List (List Char)}
    (quiet : ∀ e ∈ earlier, e ≠ [] ∧ mentions (received e) = false) (later : List (Option (List Char))) :
    Announces a.group ((earlier ++ [a.text]).map some ++ later) ↔ earlier.length < maxEventReads := by
  have heard := mentions_of_parse (parse_received a)
  constructor
  · rintro ⟨event, ⟨before, d, rest, shape, short, -, mentioned, -⟩, -⟩
    by_contra late
    have lt : before.length < earlier.length := by omega
    have at_d := congrArg (fun incoming => incoming[before.length]?) shape
    have inside : d ∈ earlier := by
      refine List.mem_of_getElem? (i := before.length) ?_
      simpa [List.getElem?_append, lt, Nat.lt_succ_of_lt lt] using at_d
    rw [(quiet d inside).2] at mentioned
    exact Bool.false_ne_true mentioned
  · intro short
    refine ⟨received a.text, ⟨earlier, a.text, later, ?_, short, quiet, heard, rfl⟩, parse_received a⟩
    simp

/-- A reply that says yes. -/
theorem ok_received {reply : List Char} : "OK".toList <+: received reply ↔ "OK".toList <+: reply := by
  rw [received, List.prefix_take_iff]
  exact and_iff_left (by decide)

theorem not_ok_of_event {event : List Char} (h : event.head? = some '<') : ¬ "OK".toList <+: event := by
  cases event with
  | nil => simp at h
  | cons c event =>
    obtain rfl := Option.some.inj h
    intro ok
    exact absurd (List.cons_prefix_cons.1 ok).1 (by decide)

/-- The second datagram is taken for the reply, whatever it is. -/
theorem startP2pGroupOwner_dialogue (m : WpaWifiManager) {opens : Bool} (reached : m.sockOpen = true ∨ opens = true)
    (d₁ d₂ : List Char) (rest : List (Option (List Char))) (group : ParsedGroup) :
    (m.startP2pGroupOwner { opens, incoming := some d₁ :: some d₂ :: rest }).2.2 = some (groupOf group) ↔
      "OK".toList <+: d₂ ∧ Announces group rest := by
  rw [startP2pGroupOwner_eq_some_iff, Bool.or_eq_true]
  constructor
  · rintro ⟨-, reply, same, ok, event⟩
    have taken : reply = received d₂ := (Option.some.inj same).symm
    exact ⟨ok_received.1 (taken ▸ ok), event⟩
  · rintro ⟨ok, event⟩
    exact ⟨reached, received d₂, rfl, ok_received.2 ok, event⟩

/-- **Whatever else arrives.** With events before the reply to `ATTACH`, between it and the reply to
`P2P_GROUP_ADD`, which says yes, and before the announcement that follows in time, the announced group is
found exactly if no event comes in before either reply, or just one before the first, which itself says
yes, and the first mention of a group among the datagrams then read announces this one. -/
theorem startP2pGroupOwner_finds_iff (m : WpaWifiManager) {opens : Bool} (reached : m.sockOpen = true ∨ opens = true)
    (before between within : List (List Char)) (events : ∀ e ∈ before ++ between ++ within, e.head? = some '<')
    (attachReply addReply : List Char) (ok : "OK".toList <+: addReply)
    (a : Announcement) (later : List (Option (List Char))) :
    (m.startP2pGroupOwner { opens, incoming :=
      (before ++ attachReply :: (between ++ addReply :: (within ++ [a.text]))).map some ++ later }).2.2 =
        some (groupOf a.group) ↔
      (before = [] ∧ between = [] ∧ Announces a.group ((within ++ [a.text]).map some ++ later)) ∨
        (before.length = 1 ∧ "OK".toList <+: attachReply ∧
          Announces a.group ((between ++ addReply :: (within ++ [a.text])).map some ++ later)) := by
  match before, between with
  | [], [] =>
    have dialogue := startP2pGroupOwner_dialogue m reached attachReply addReply
      ((within ++ [a.text]).map some ++ later) a.group
    refine dialogue.trans ⟨fun h => .inl ⟨rfl, rfl, h.2⟩, ?_⟩
    rintro (⟨-, -, found⟩ | ⟨one, -⟩)
    · exact ⟨ok, found⟩
    · exact absurd one (by simp)
  | [], e :: between =>
    have event : e.head? = some '<' := events e (by simp)
    have dialogue := startP2pGroupOwner_dialogue m reached attachReply e
      ((between ++ addReply :: (within ++ [a.text])).map some ++ later) a.group
    refine dialogue.trans (iff_of_false (fun h => not_ok_of_event event h.1) ?_)
    simp
  | [e], between =>
    have dialogue := startP2pGroupOwner_dialogue m reached e attachReply
      ((between ++ addReply :: (within ++ [a.text])).map some ++ later) a.group
    refine dialogue.trans ⟨fun h => .inr ⟨rfl, h⟩, ?_⟩
    rintro (⟨empty, -⟩ | ⟨-, h⟩)
    · exact absurd empty (List.cons_ne_nil _ _)
    · exact h
  | e :: e' :: before, between =>
    have event : e'.head? = some '<' := events e' (by simp)
    have dialogue := startP2pGroupOwner_dialogue m reached e e'
      ((before ++ attachReply :: (between ++ addReply :: (within ++ [a.text]))).map some ++ later) a.group
    refine dialogue.trans (iff_of_false (fun h => not_ok_of_event event h.1) ?_)
    simp

/-- Where nothing else mentions a group, it is a matter of how many datagrams come in before what. -/
theorem startP2pGroupOwner_finds_quiet_iff (m : WpaWifiManager) {opens : Bool}
    (reached : m.sockOpen = true ∨ opens = true) (before between within : List (List Char))
    (events : ∀ e ∈ before ++ between ++ within, e.head? = some '<') (attachReply addReply : List Char)
    (ok : "OK".toList <+: addReply)
    (quiet : ∀ e ∈ before ++ between ++ within ++ [addReply], mentions (received e) = false)
    (a : Announcement) (later : List (Option (List Char))) :
    (m.startP2pGroupOwner { opens, incoming :=
      (before ++ attachReply :: (between ++ addReply :: (within ++ [a.text]))).map some ++ later }).2.2 =
        some (groupOf a.group) ↔
      (before = [] ∧ between = [] ∧ within.length < maxEventReads) ∨
        (before.length = 1 ∧ "OK".toList <+: attachReply ∧
          between.length + (within.length + 1) < maxEventReads) := by
  have nonempty : ∀ e ∈ between ++ addReply :: within, e ≠ [] := by
    rintro e he rfl
    rcases List.mem_append.1 he with inside | inside
    · exact absurd (events [] (by simp [inside])) (by simp)
    · rcases List.mem_cons.1 inside with rfl | inside
      · exact absurd (List.prefix_nil.1 ok) (by decide)
      · exact absurd (events [] (by simp [inside])) (by simp)
  have all : ∀ e ∈ between ++ addReply :: within, e ≠ [] ∧ mentions (received e) = false := by
    intro e he
    refine ⟨nonempty e he, quiet e ?_⟩
    simp only [List.mem_append, List.mem_cons, List.not_mem_nil, or_false] at he ⊢
    tauto
  rw [startP2pGroupOwner_finds_iff m reached before between within events attachReply addReply ok a later]
  have first := announces_quiet_iff a (fun e he => all e (by simp [he]) : ∀ e ∈ within, _) later
  have second := announces_quiet_iff a all later
  rw [List.length_append, List.length_cons] at second
  rw [first, ← second, List.append_assoc, List.cons_append]

/-- The event a driver reports for its autonomous group. -/
def sampleAnnouncement : Announcement where
  level := "3".toList
  iface := "p2p-wlan0-0".toList
  ssid := "DIRECT-Ab-ScoutCam".toList
  freq := "2412".toList
  passphrase := "swXY1234".toList
  rest := " go_dev_addr=02:11:22:33:44:55".toList
  level_plain := by decide
  iface_ne := by decide
  iface_plain := by decide
  ssid_plain := by decide
  ssid_end := by decide
  freq_plain := by decide
  passphrase_plain := by decide
  sizes := by decide

/-- An event between the second reply and the announcement does no harm. -/
theorem finds_past_scan :
    (startP2pGroupOwner {} { incoming :=
      ["OK\n".toList, "OK\n".toList, "<3>CTRL-EVENT-SCAN-STARTED ".toList, sampleAnnouncement.text].map some }).2.2 =
      some (groupOf sampleAnnouncement.group) := by
  have silent : ∀ e ∈ ["<3>CTRL-EVENT-SCAN-STARTED ".toList], e ≠ [] ∧ mentions (received e) = false := by decide
  have quiet := (announces_quiet_iff sampleAnnouncement silent []).2 (by decide)
  have reached : ({} : WpaWifiManager).sockOpen = true ∨ true = true := .inr rfl
  exact (startP2pGroupOwner_finds_iff {} reached [] [] ["<3>CTRL-EVENT-SCAN-STARTED ".toList]
    (by decide) "OK\n".toList "OK\n".toList (by decide) sampleAnnouncement []).2 (.inl ⟨rfl, rfl, quiet⟩)

/-- One before the second reply is taken for it, and the group is not even looked for. -/
theorem misses_after_scan :
    (startP2pGroupOwner {} { incoming :=
      ["OK\n".toList, "<3>CTRL-EVENT-SCAN-STARTED ".toList, "OK\n".toList, sampleAnnouncement.text].map some }).2.2 =
      none := by
  decide

end SstCam.Wpa
