import SstCam.Lib.Delimited

/-!
# WpaP2pParse

The fields of a `P2P-GROUP-STARTED` event (`adapters/control/wifi/wpa_supplicant/wpa-p2p-parse.hpp`),
each looked for by itself from the start of the text, whose bytes are taken as characters. An event as
`wpa_supplicant` writes it gives back its three fields but for an SSID that ends in the passphrase's
mark (`parseGroupStarted_iff`): the search for it then stops at the SSID's closing quote.
-/

namespace SstCam
set_option autoImplicit false
open Delimited

def parseQuotedField (text key : List Char) : Option (List Char) :=
  match after (key ++ ['='] ++ ['"']) text with
  | none => none
  | some rest => if '"' ∈ rest then some (rest.takeWhile (· ≠ '"')) else none

def groupStarted : List Char := "P2P-GROUP-STARTED".toList
def ssidKey : List Char := "ssid".toList
def passphraseKey : List Char := "passphrase".toList
def freqKey : List Char := " freq=".toList

/-- The first token after the event's name. -/
def parseGroupInterface (event : List Char) : Option (List Char) :=
  match after groupStarted event with
  | none => none
  | some rest =>
    let token := (rest.dropWhile (· = ' ')).takeWhile (· ≠ ' ')
    if token = [] then none else some token

structure ParsedGroup where
  interface : String
  ssid : String
  passphrase : String
  deriving DecidableEq, Repr

def parseGroupStarted (event : List Char) : Option ParsedGroup :=
  match parseGroupInterface event, parseQuotedField event ssidKey, parseQuotedField event passphraseKey with
  | some iface, some ssid, some passphrase =>
    some { interface := String.ofList iface, ssid := String.ofList ssid, passphrase := String.ofList passphrase }
  | _, _, _ => none

/-- Between the mark and the closing quote. -/
theorem parseQuotedField_eq {text key value rest : List Char}
    (found : after (key ++ ['='] ++ ['"']) text = some (value ++ '"' :: rest)) (plain : '"' ∉ value) :
    parseQuotedField text key = some value := by
  simp only [parseQuotedField, found]
  rw [if_pos (List.mem_append_right _ List.mem_cons_self), takeWhile_field plain]

/-! ## The event as it is written -/

/-- An event whose quoted fields have no quote, and its interface no space. -/
structure GroupLine where
  level : List Char
  iface : List Char
  ssid : List Char
  freq : List Char
  passphrase : List Char
  rest : List Char
  level_plain : 'P' ∉ level ∧ '"' ∉ level
  iface_ne : iface ≠ []
  iface_plain : ' ' ∉ iface ∧ '"' ∉ iface
  ssid_plain : '"' ∉ ssid
  freq_plain : '"' ∉ freq
  passphrase_plain : '"' ∉ passphrase

namespace GroupLine

variable (l : GroupLine)

/-- What stands before the SSID's own mark. -/
def opening : List Char :=
  '<' :: l.level ++ '>' :: groupStarted ++ ' ' :: l.iface ++ " GO ".toList

/-- What stands between the SSID and the passphrase. -/
def between : List Char := freqKey ++ l.freq ++ [' '] ++ (passphraseKey ++ ['='])

def text : List Char :=
  l.opening ++ (ssidKey ++ ['=']) ++ '"' :: (l.ssid ++ '"' :: (l.between ++ '"' :: (l.passphrase ++ '"' :: l.rest)))

def group : ParsedGroup where
  interface := String.ofList l.iface
  ssid := String.ofList l.ssid
  passphrase := String.ofList l.passphrase

/-- The SSID ends in the passphrase's mark. -/
def EndsInMark : Prop := passphraseKey ++ ['='] <:+ l.ssid

instance : Decidable l.EndsInMark := inferInstanceAs (Decidable (_ <:+ _))

theorem after_groupStarted : ∃ rest, after groupStarted l.text = some (' ' :: (l.iface ++ ' ' :: rest)) := by
  have name : groupStarted = 'P' :: "2P-GROUP-STARTED".toList := by decide
  have before : 'P' ∉ '<' :: l.level ++ ['>'] := by simp [l.level_plain.1]
  obtain ⟨rest, text⟩ : ∃ rest, l.text = '<' :: l.level ++ ['>'] ++ (groupStarted ++ ' ' :: (l.iface ++ ' ' :: rest)) :=
    ⟨_, by simp only [text, opening, List.append_assoc, List.cons_append, List.nil_append]; rfl⟩
  rw [text, name, after_past before, ← name]
  exact ⟨rest, after_append (by decide) _⟩

theorem parseGroupInterface_text : parseGroupInterface l.text = some l.iface := by
  obtain ⟨c, cs, iface⟩ := List.exists_cons_of_ne_nil l.iface_ne
  have plain := l.iface_plain.1
  have first : c ≠ ' ' := by
    rintro rfl
    exact plain (iface ▸ List.mem_cons_self)
  obtain ⟨rest, found⟩ := l.after_groupStarted
  have token : ((' ' :: (l.iface ++ ' ' :: rest)).dropWhile (· = ' ')).takeWhile (· ≠ ' ') = l.iface := by
    rw [List.dropWhile_cons_of_pos (by simp), iface, List.cons_append, List.dropWhile_cons_of_neg (by simpa using first),
      ← List.cons_append, ← iface]
    exact takeWhile_field plain
  simp only [parseGroupInterface, found, token]
  exact if_neg l.iface_ne

theorem quote_not_mem_opening : '"' ∉ l.opening := by
  have name : '"' ∉ groupStarted := by decide
  simp [opening, l.level_plain.2, l.iface_plain.2, name]

theorem quote_not_mem_between : '"' ∉ l.between := by
  have own : '"' ∉ freqKey ∧ '"' ∉ passphraseKey := by decide
  simp [between, own, l.freq_plain]

/-- The first quote of all ends the SSID's mark. -/
theorem parseQuotedField_ssid : parseQuotedField l.text ssidKey = some l.ssid := by
  have found : after (ssidKey ++ ['='] ++ ['"']) l.text =
      some (l.ssid ++ '"' :: (l.between ++ '"' :: (l.passphrase ++ '"' :: l.rest))) := by
    have key : '"' ∉ ssidKey ++ ['='] := by decide
    rw [text, List.append_assoc l.opening]
    exact after_here key l.quote_not_mem_opening
  exact parseQuotedField_eq found l.ssid_plain

/-- The SSID's opening quote does not end the passphrase's mark. -/
theorem after_passphrase : after (passphraseKey ++ ['='] ++ ['"']) l.text =
    after (passphraseKey ++ ['='] ++ ['"']) (l.ssid ++ '"' :: (l.between ++ '"' :: (l.passphrase ++ '"' :: l.rest))) := by
  have quote : '"' ∉ l.opening ++ (ssidKey ++ ['=']) := by
    rw [List.mem_append, not_or]
    exact ⟨l.quote_not_mem_opening, by decide⟩
  have before : ¬ passphraseKey ++ ['='] <:+ l.opening ++ (ssidKey ++ ['=']) := by
    intro ends
    have own : ssidKey ++ ['='] <:+ l.opening ++ (ssidKey ++ ['=']) := List.suffix_append _ _
    exact absurd (List.suffix_of_suffix_length_le own ends (by decide)) (by decide)
  have key : '"' ∉ passphraseKey ++ ['='] := by decide
  rw [text, after_skip key quote before]

/-- The search stops at the SSID's closing quote where the SSID ends in the mark, else at the passphrase. -/
theorem parseQuotedField_passphrase :
    parseQuotedField l.text passphraseKey = some (if l.EndsInMark then l.between else l.passphrase) := by
  have key : '"' ∉ passphraseKey ++ ['='] := by decide
  by_cases ends : l.EndsInMark
  · obtain ⟨name, ssid⟩ := ends
    have plain := l.ssid_plain
    rw [← ssid, List.mem_append, not_or] at plain
    have found : after (passphraseKey ++ ['='] ++ ['"']) l.text = some (l.between ++ '"' :: (l.passphrase ++ '"' :: l.rest)) := by
      rw [after_passphrase, ← ssid, List.append_assoc name]
      exact after_here key plain.1
    rw [if_pos ⟨name, ssid⟩]
    exact parseQuotedField_eq found l.quote_not_mem_between
  · have found : after (passphraseKey ++ ['='] ++ ['"']) l.text = some (l.passphrase ++ '"' :: l.rest) := by
      have plain : '"' ∉ freqKey ++ l.freq ++ [' '] := by
        have own : '"' ∉ freqKey := by decide
        simp [own, l.freq_plain]
      rw [after_passphrase, after_skip key l.ssid_plain ends, between, List.append_assoc (freqKey ++ l.freq ++ [' '])]
      exact after_here key plain
    rw [if_neg ends]
    exact parseQuotedField_eq found l.passphrase_plain

theorem parseGroupStarted_eq : parseGroupStarted l.text = some
    { l.group with passphrase := String.ofList (if l.EndsInMark then l.between else l.passphrase) } := by
  simp only [parseGroupStarted, parseGroupInterface_text, parseQuotedField_ssid, parseQuotedField_passphrase]
  rfl

/-- **The event gives back what it announces** exactly if its SSID does not end in the passphrase's mark,
or the passphrase happens to be what stands before it. -/
theorem parseGroupStarted_iff : parseGroupStarted l.text = some l.group ↔ ¬ l.EndsInMark ∨ l.passphrase = l.between := by
  have fields : ∀ found, some { l.group with passphrase := String.ofList found } = some l.group ↔ found = l.passphrase := by
    intro found
    rw [Option.some.injEq, group, ParsedGroup.mk.injEq]
    exact ⟨fun same => String.ofList_injective same.2.2, fun same => ⟨rfl, rfl, congrArg String.ofList same⟩⟩
  rw [parseGroupStarted_eq, fields]
  by_cases ends : l.EndsInMark
  · rw [if_pos ends, or_iff_right (not_not.2 ends), eq_comm]
  · rw [if_neg ends]
    exact iff_of_true rfl (.inl ends)

/-- A group whose SSID says how the passphrase is written. -/
def markedLine : GroupLine where
  level := ['3']
  iface := "p2p-wlan0-2".toList
  ssid := "DIRECT-Ab passphrase=".toList
  freq := "2437".toList
  passphrase := "kZ7mQ2pa".toList
  rest := " go_dev_addr=02:11:22:33:44:55".toList
  level_plain := by decide
  iface_ne := by decide
  iface_plain := by decide
  ssid_plain := by decide
  freq_plain := by decide
  passphrase_plain := by decide

/-- Its passphrase is taken for what stands before it. -/
theorem marked_line_misread :
    parseGroupStarted markedLine.text =
        some { interface := "p2p-wlan0-2", ssid := "DIRECT-Ab passphrase=", passphrase := " freq=2437 passphrase=" } ∧
      markedLine.group.passphrase = "kZ7mQ2pa" := by
  refine ⟨?_, by decide⟩
  rw [parseGroupStarted_eq, if_pos (by decide)]
  decide

end GroupLine

/-- The event of a group with an ordinary interface, SSID and passphrase. -/
structure Announcement extends GroupLine where
  ssid_end : ¬ toGroupLine.EndsInMark
  sizes : level.length + iface.length + ssid.length + freq.length + passphrase.length ≤ 4000

namespace Announcement

variable (a : Announcement)

theorem parseGroupStarted_text : parseGroupStarted a.text = some a.group := by
  rw [GroupLine.parseGroupStarted_eq, if_neg a.ssid_end]
  rfl

/-- What stands behind the passphrase is not read. -/
def announced : List Char :=
  a.opening ++ (ssidKey ++ ['=']) ++ '"' :: (a.ssid ++ '"' :: (a.between ++ '"' :: (a.passphrase ++ ['"'])))

theorem text_eq : a.text = a.announced ++ a.rest := by
  simp only [GroupLine.text, announced, List.append_assoc, List.cons_append, List.nil_append]

theorem length_announced : a.announced.length ≤ 4095 := by
  have sizes := a.sizes
  have fixed : groupStarted.length = 17 ∧ ssidKey.length = 4 ∧ freqKey.length = 6 ∧ passphraseKey.length = 10 := by
    decide
  simp [announced, GroupLine.opening, GroupLine.between, fixed]
  omega

/-- Cut off behind its fields, it announces the same group. -/
theorem parseGroupStarted_take {n : Nat} (room : 4095 ≤ n) : parseGroupStarted (a.text.take n) = some a.group := by
  have cut : a.text.take n = { a with rest := a.rest.take (n - a.announced.length) : Announcement }.text := by
    rw [text_eq, List.take_append, List.take_of_length_le (Nat.le_trans a.length_announced room), text_eq]
    rfl
  rw [cut]
  exact parseGroupStarted_text _

end Announcement

end SstCam
