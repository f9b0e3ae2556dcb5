import SstCam.Lib.Runs
import SstCam.Wifi.GroupSearch

/-!
# The groups that are left standing

`wpa_supplicant` forms a group when it accepts `P2P_GROUP_ADD`, whatever becomes of its reply and of
the announcement, and the manager removes what it remembers when it is stopped. A start that does not
find its group leaves it standing, and of the groups of several starts a stop removes the last one
announced. What each call must find for nothing to be left behind is `Tidy`; a run leaks
nothing exactly if every call is (`run_leaks_nothing_iff`). One start between two stops, each group heard
of under its own name and each removal gone out, is enough (`one_group_leaks_nothing`).
-/

namespace SstCam.Wpa
set_option autoImplicit false
open SstCam.Wpa.WpaWifiManager

/-! ## The manager and the groups it formed -/

/-- What `wpa_supplicant` does with a command: an accepted `P2P_GROUP_ADD` forms a group (`forms`), and
`P2P_GROUP_REMOVE` removes the group it names, or all. -/
def serve (forms : Option String) (standing : List String) (cmd : String) : List String :=
  if cmd = "P2P_GROUP_ADD" then standing ++ forms.toList
  else standing.filter fun group => !(cmd = "P2P_GROUP_REMOVE " ++ group || cmd = "P2P_GROUP_REMOVE *")

/-- No text is one that is longer already without its end. -/
theorem ne_append_of_lt {s t : String} (shorter : s.length < t.length) (u : String) : s ≠ t ++ u := by
  intro same
  have lengths := congrArg String.length same
  rw [String.length_append] at lengths
  omega

theorem serve_attach (forms : Option String) (standing : List String) : serve forms standing "ATTACH" = standing := by
  refine (if_neg (by decide)).trans (List.filter_eq_self.2 ?_)
  intro group _
  have other : "ATTACH" ≠ "P2P_GROUP_REMOVE " ++ group := ne_append_of_lt (by decide) group
  simp [other]

theorem serve_add (forms : Option String) (standing : List String) :
    serve forms standing "P2P_GROUP_ADD" = standing ++ forms.toList :=
  if_pos rfl

/-- A removal spares the groups it does not name. -/
theorem serve_remove_eq_nil_iff (forms : Option String) (standing : List String) (target : String) :
    serve forms standing ("P2P_GROUP_REMOVE " ++ target) = [] ↔
      target = "*" ∨ ∀ group ∈ standing, group = target := by
  have other : "P2P_GROUP_REMOVE " ++ target ≠ "P2P_GROUP_ADD" := (ne_append_of_lt (by decide) target).symm
  rw [serve, if_neg other, List.filter_eq_nil_iff, removeAll]
  simp only [String.append_right_inj, Bool.not_eq_true', Bool.not_eq_false, Bool.or_eq_true, decide_eq_true_iff]
  constructor
  · intro each
    by_cases every : target = "*"
    · exact .inl every
    · exact .inr fun group hg => ((each group hg).resolve_right every).symm
  · rintro (every | named) group hg
    · exact .inr every
    · exact .inl (named group hg).symm

/-- The manager and the groups of its that stand. -/
structure World where
  manager : WpaWifiManager := {}
  standing : List String := []
  deriving DecidableEq, Repr

/-- A call, with what the control socket and `wpa_supplicant` do during it. -/
inductive WifiCall where
  | startP2pGroupOwner (opens : Bool) (sends : List Bool) (incoming : List (Option (List Char)))
      (forms : Option String)
  | stop (sends : List Bool) (incoming : List (Option (List Char)))
  deriving DecidableEq, Repr

namespace World

def step (w : World) : WifiCall → World
  | .startP2pGroupOwner opens sends incoming forms =>
    let (manager, line, _) := w.manager.startP2pGroupOwner { opens, sends, incoming }
    { manager, standing := line.outgoing.foldl (serve forms) w.standing }
  | .stop sends incoming =>
    let (manager, line) := w.manager.stop { sends, incoming }
    { manager, standing := line.outgoing.foldl (serve none) w.standing }

/-- A start that returns nothing leaves nothing it formed, and a stop leaves nothing at all. -/
def LeaksNothing (w : World) : WifiCall → Prop
  | .startP2pGroupOwner opens sends incoming forms =>
    (w.manager.startP2pGroupOwner { opens, sends, incoming }).2.2 = none →
      (w.step (.startP2pGroupOwner opens sends incoming forms)).standing = w.standing
  | .stop sends incoming => (w.step (.stop sends incoming)).standing = []

instance decidableLeaksNothing (w : World) : (c : WifiCall) → Decidable (w.LeaksNothing c)
  | .startP2pGroupOwner _ _ _ _ => inferInstanceAs (Decidable (_ → _))
  | .stop _ _ => inferInstanceAs (Decidable (_ = _))

/-- What there is to read when `P2P_GROUP_ADD` has gone out: the datagram taken for its reply, and the rest. -/
def toRead (sends : List Bool) (incoming : List (Option (List Char))) : List (Option (List Char)) :=
  if sends.headD true then incoming.tail else incoming

/-- `P2P_GROUP_ADD` goes out and forms the group. -/
def Forms (w : World) (opens : Bool) (sends : List Bool) (forms : Option String) (group : String) : Prop :=
  (w.manager.sockOpen || opens) = true ∧ sends.tail.headD true = true ∧ forms = some group

/-- The datagram taken for the reply says yes, and the first mention of a group after it announces one. -/
def Heard (sends : List Bool) (incoming : List (Option (List Char))) (group : ParsedGroup) : Prop :=
  ∃ reply rest, toRead sends incoming = some reply :: rest ∧ "OK".toList <+: reply ∧ Announces group rest

/-- A start hears of some group if it formed one. A stop finds no group, or it has the socket open and its
removal goes out, for all groups or for the one that every standing group is. -/
def Tidy (w : World) : WifiCall → Prop
  | .startP2pGroupOwner opens sends incoming forms =>
    (∃ group, w.Forms opens sends forms group) → ∃ group, Heard sends incoming group
  | .stop sends _ =>
    w.standing = [] ∨
      (w.manager.sockOpen = true ∧ sends.headD true = true ∧
        (w.manager.groupInterface = "" ∨ w.manager.groupInterface = "*" ∨
          ∀ group ∈ w.standing, group = w.manager.groupInterface))

/-! ## What goes out and what there is to read -/

theorem asked_outgoing (opens : Bool) (sends : List Bool) (incoming : List (Option (List Char))) :
    (asked { opens, sends, incoming }).1.outgoing =
      (if sends.headD true then ["ATTACH"] else []) ++ if sends.tail.headD true then ["P2P_GROUP_ADD"] else [] := by
  rcases sends with _ | ⟨_ | _, _ | ⟨_ | _, sends⟩⟩ <;> rfl

theorem asked_sent {opens : Bool} {sends : List Bool} {incoming : List (Option (List Char))}
    (sent : sends.tail.headD true = true) :
    (asked { opens, sends, incoming }).2 = ((toRead sends incoming).headD none).map received ∧
      (asked { opens, sends, incoming }).1.incoming = (toRead sends incoming).tail := by
  rcases sends with _ | ⟨_ | _, _ | ⟨_ | _, sends⟩⟩
  all_goals first | exact ⟨rfl, rfl⟩ | exact absurd sent (by simp)

theorem step_start_standing (w : World) (opens : Bool) (sends : List Bool)
    (incoming : List (Option (List Char))) (forms : Option String) :
    (w.step (.startP2pGroupOwner opens sends incoming forms)).standing =
      if (w.manager.sockOpen || opens) = true ∧ sends.tail.headD true = true then w.standing ++ forms.toList
      else w.standing := by
  change ((w.manager.startP2pGroupOwner { opens, sends, incoming }).2.1.outgoing.foldl (serve forms) w.standing) = _
  cases reached : w.manager.sockOpen || opens with
  | false =>
    rw [startP2pGroupOwner_closed reached]
    simp
  | true =>
    rw [startP2pGroupOwner_open reached, heard_outgoing, asked_outgoing]
    cases sends.headD true <;> cases sends.tail.headD true <;> simp [serve_attach, serve_add]

theorem step_stop_standing (w : World) (sends : List Bool) (incoming : List (Option (List Char))) :
    (w.step (.stop sends incoming)).standing =
      if w.manager.sockOpen = true ∧ sends.headD true = true then
        serve none w.standing ("P2P_GROUP_REMOVE " ++
          if w.manager.groupInterface ≠ "" then w.manager.groupInterface else "*")
      else w.standing := by
  change ((w.manager.stop { sends, incoming }).2.outgoing.foldl (serve none) w.standing) = _
  rw [stop_outgoing]
  by_cases out : w.manager.sockOpen = true ∧ sends.headD true = true
  · rw [if_pos out, if_pos out]
    rfl
  · rw [if_neg out, if_neg out]
    rfl

/-- A start returns the group it hears of. -/
theorem start_eq_some_iff {w : World} {opens : Bool} {sends : List Bool} {incoming : List (Option (List Char))}
    (reached : (w.manager.sockOpen || opens) = true) (sent : sends.tail.headD true = true) (group : ParsedGroup) :
    (w.manager.startP2pGroupOwner { opens, sends, incoming }).2.2 = some (groupOf group) ↔
      Heard sends incoming group := by
  have dialogue : (asked { opens, sends, incoming }).2 = _ ∧ (asked { opens, sends, incoming }).1.incoming = _ :=
    asked_sent sent
  obtain ⟨taken, left⟩ := dialogue
  rw [startP2pGroupOwner_eq_some_iff, taken, left]
  constructor
  · rintro ⟨-, reply, came, ok, event⟩
    cases read : toRead sends incoming with
    | nil => simp [read] at came
    | cons d rest =>
      rw [read, List.headD_cons, Option.map_eq_some_iff] at came
      obtain ⟨d, rfl, rfl⟩ := came
      rw [read] at event
      exact ⟨d, rest, read, ok_received.1 ok, event⟩
  · rintro ⟨d, rest, read, ok, event⟩
    rw [read]
    exact ⟨reached, received d, rfl, ok_received.2 ok, event⟩

theorem start_ne_none_iff {w : World} {opens : Bool} {sends : List Bool} {incoming : List (Option (List Char))}
    (reached : (w.manager.sockOpen || opens) = true) (sent : sends.tail.headD true = true) :
    (w.manager.startP2pGroupOwner { opens, sends, incoming }).2.2 ≠ none ↔ ∃ group, Heard sends incoming group := by
  simp only [← start_eq_some_iff reached sent]
  constructor
  · intro returned
    rcases startP2pGroupOwner_cases w.manager { opens, sends, incoming } with ⟨-, none⟩ | ⟨group, -, formed⟩
    · exact absurd none returned
    · exact ⟨group, formed⟩
  · rintro ⟨group, formed⟩
    simp [formed]

/-- **One call.** It leaks nothing exactly if it is tidy. -/
theorem leaksNothing_iff (w : World) (c : WifiCall) : w.LeaksNothing c ↔ w.Tidy c := by
  cases c with
  | startP2pGroupOwner opens sends incoming forms =>
    rw [LeaksNothing, Tidy, step_start_standing]
    by_cases out : (w.manager.sockOpen || opens) = true ∧ sends.tail.headD true = true
    · rw [if_pos out, ← start_ne_none_iff out.1 out.2]
      have formed : (∃ group, w.Forms opens sends forms group) ↔ forms ≠ none := by
        simp only [Forms, out.1, out.2, true_and, Option.ne_none_iff_exists']
      rw [formed, List.append_right_eq_self, Option.toList_eq_nil_iff]
      exact ⟨fun h some none => some (h none), fun h none => by_contra fun some => h some none⟩
    · rw [if_neg out]
      refine iff_of_true (fun _ => rfl) ?_
      rintro ⟨group, reached, sent, -⟩
      exact absurd ⟨reached, sent⟩ out
  | stop sends incoming =>
    rw [LeaksNothing, Tidy, step_stop_standing]
    by_cases out : w.manager.sockOpen = true ∧ sends.headD true = true
    · rw [if_pos out, serve_remove_eq_nil_iff]
      by_cases forgotten : w.manager.groupInterface = ""
      · rw [if_neg (not_not_intro forgotten)]
        exact iff_of_true (.inl rfl) (.inr ⟨out.1, out.2, .inl forgotten⟩)
      · rw [if_pos forgotten]
        constructor
        · exact fun removed => .inr ⟨out.1, out.2, .inr removed⟩
        · rintro (none | ⟨-, -, empty | removed⟩)
          · rw [none]
            exact .inr (by simp)
          · exact absurd empty forgotten
          · exact removed
    · rw [if_neg out]
      refine ⟨.inl, ?_⟩
      rintro (none | ⟨isOpen, sent, -⟩)
      · exact none
      · exact absurd ⟨isOpen, sent⟩ out

/-- **Every run.** A run leaks nothing, at any call, exactly if every call is tidy. -/
theorem run_leaks_nothing_iff (w : World) (cs : List WifiCall) :
    Runs.Along step LeaksNothing w cs ↔ Runs.Along step Tidy w cs :=
  Runs.along_iff (I := fun _ => True) (fun w c _ => w.leaksNothing_iff c) (fun _ _ _ _ => trivial) trivial cs

/-- A group that formed and was not announced stays when the start gives up, and so does the first of two. -/
theorem groups_leak :
    ¬ Runs.Along step LeaksNothing {}
        [.startP2pGroupOwner true [] [some "OK\n".toList, some "OK\n".toList] (some "p2p-wlan0-0")] ∧
      ¬ Runs.Along step LeaksNothing {}
        [.startP2pGroupOwner true [] [some "OK\n".toList, some "OK\n".toList,
            some "<3>P2P-GROUP-STARTED p2p-wlan0-0 GO ssid=\"DIRECT-ab\" freq=2412 passphrase=\"swXY1234\"".toList]
            (some "p2p-wlan0-0"),
          .startP2pGroupOwner true [] [some "OK\n".toList, some "OK\n".toList,
            some "<3>P2P-GROUP-STARTED p2p-wlan0-1 GO ssid=\"DIRECT-cd\" freq=2412 passphrase=\"swXY1234\"".toList]
            (some "p2p-wlan0-1"),
          .stop [] [some "OK\n".toList]] := by
  decide +kernel

/-! ## One group at a time -/

/-- The manager remembers every group that stands. -/
def Remembers (w : World) : Prop :=
  w.standing = [] ∨ (w.manager.sockOpen = true ∧ ∀ group ∈ w.standing, group = w.manager.groupInterface)

/-- A start finds no group, and hears of the one it forms under its own name; the removal of a stop
goes out. -/
def OneGroup (w : World) : WifiCall → Prop
  | .startP2pGroupOwner opens sends incoming forms =>
    w.standing = [] ∧ ∀ formed, w.Forms opens sends forms formed →
      ∃ group, Heard sends incoming group ∧ group.interface = formed
  | .stop sends _ => sends.headD true = true

theorem start_remembers {m : WpaWifiManager} {l : ControlLine} {group : ParsedGroup}
    (returned : (m.startP2pGroupOwner l).2.2 = some (groupOf group)) :
    (m.startP2pGroupOwner l).1.sockOpen = true ∧ (m.startP2pGroupOwner l).1.groupInterface = group.interface := by
  rcases startP2pGroupOwner_cases m l with ⟨-, none⟩ | ⟨parsed, now, formed⟩
  · simp [none] at returned
  · rw [formed, Option.some.injEq, groupOf_inj] at returned
    rw [now, returned]
    exact ⟨rfl, rfl⟩

theorem tidy_of_oneGroup (w : World) (c : WifiCall) (remembers : w.Remembers) (one : w.OneGroup c) : w.Tidy c := by
  cases c with
  | startP2pGroupOwner opens sends incoming forms =>
    rintro ⟨formed, forms⟩
    obtain ⟨group, heard, -⟩ := one.2 formed forms
    exact ⟨group, heard⟩
  | stop sends incoming =>
    rcases remembers with none | ⟨isOpen, all⟩
    · exact .inl none
    · exact .inr ⟨isOpen, one, .inr (.inr all)⟩

theorem step_remembers (w : World) (c : WifiCall) (remembers : w.Remembers) (one : w.OneGroup c) :
    (w.step c).Remembers := by
  cases c with
  | startP2pGroupOwner opens sends incoming forms =>
    rw [Remembers, step_start_standing, one.1, List.nil_append]
    by_cases out : (w.manager.sockOpen || opens) = true ∧ sends.tail.headD true = true
    · rw [if_pos out]
      cases forms with
      | none => exact .inl rfl
      | some formed =>
        obtain ⟨group, heard, own⟩ := one.2 formed ⟨out.1, out.2, rfl⟩
        obtain ⟨isOpen, remembered⟩ := start_remembers ((start_eq_some_iff out.1 out.2 group).2 heard)
        refine .inr ⟨isOpen, ?_⟩
        intro g hg
        rw [Option.toList_some, List.mem_singleton] at hg
        rw [hg, ← own]
        exact remembered.symm
    · rw [if_neg out]
      exact .inl rfl
  | stop sends incoming =>
    exact .inl ((w.leaksNothing_iff _).2 (w.tidy_of_oneGroup _ remembers one))

/-- **One group at a time.** Nothing leaks where no start finds a group of an earlier one, each start hears of
the group it forms and each removal goes out. -/
theorem one_group_leaks_nothing (cs : List WifiCall) (one : Runs.Along step OneGroup {} cs) :
    Runs.Along step LeaksNothing {} cs :=
  Runs.along_of_guarded step_remembers
    (fun w c remembers one => (w.leaksNothing_iff c).2 (w.tidy_of_oneGroup c remembers one)) (.inl rfl) one

end World

end SstCam.Wpa
