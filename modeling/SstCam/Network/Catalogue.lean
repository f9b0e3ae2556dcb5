import SstCam.Network.DownloadServer

/-!
# The catalogue and the tokens

The catalogue lists the recordings by the stems of their names, and a token for a stem authorises the
first file that has it. The two walk the same tree, but the second does not ask whether the name of a
`.nv12` file is one of ours; and nothing keeps two recordings from having one stem.
-/

namespace SstCam
set_option autoImplicit false

namespace DownloadServer

variable {root : Option (List FileNode)} {d e : DirectoryEntry} {id : String}

/-- The id of a recording. -/
def recordingId (e : DirectoryEntry) : String := String.ofList (stem e.fileName)

/-- The catalogue lists the entry. -/
def Listed (e : DirectoryEntry) : Prop :=
  e.isRegularFile = true ∧
    (extension e.fileName = kMp4Extension ∨
      extension e.fileName = kRawExtension ∧ (RawCaptureNaming.parseFileName e.fileName).isSome = true)

instance : DecidablePred Listed := fun _ => inferInstanceAs (Decidable (_ ∧ _))

/-- A `.nv12` file with a name that is not that of a raw capture. -/
def Stray (e : DirectoryEntry) : Prop :=
  e.isRegularFile = true ∧ extension e.fileName = kRawExtension ∧ RawCaptureNaming.parseFileName e.fileName = none

theorem isRecording_iff : isRecording e = true ↔ Listed e ∨ Stray e := by
  rw [isRecording, Listed, Stray]
  cases e.isRegularFile <;> cases RawCaptureNaming.parseFileName e.fileName <;> simp

/-- A summary carries the id of its file. -/
theorem summarize_recordingId (e : DirectoryEntry) :
    (summarize e).map (·.recordingId) = if Listed e then some (recordingId e) else none := by
  cases regular : e.isRegularFile with
  | false => simp [summarize, Listed, regular]
  | true =>
    by_cases mp4 : extension e.fileName = kMp4Extension
    · simp [summarize, Listed, regular, mp4, recordingId]
    · by_cases raw : extension e.fileName = kRawExtension
      · cases parsed : RawCaptureNaming.parseFileName e.fileName <;>
          simp [summarize, Listed, regular, raw, parsed, recordingId, kMp4Extension, kRawExtension]
      · simp [summarize, Listed, regular, mp4, raw]

theorem enumerate_ids (root : Option (List FileNode)) :
    (enumerate root).map (·.recordingId) = ((recursiveDirectory root).filter fun e => decide (Listed e)).map recordingId := by
  rw [enumerate]
  induction recursiveDirectory root with
  | nil => rfl
  | cons e entries ih =>
    have here := summarize_recordingId e
    rw [List.filterMap_cons, List.filter_cons]
    cases found : summarize e with
    | none =>
      rw [found] at here
      by_cases listed : Listed e
      · simp [listed] at here
      · simpa [listed] using ih
    | some summary =>
      rw [found] at here
      by_cases listed : Listed e
      · simp only [listed, if_true, Option.map_some, Option.some.injEq] at here
        simpa [listed, here] using ih
      · simp [listed] at here

theorem mem_enumerate_ids :
    id ∈ (enumerate root).map (·.recordingId) ↔ ∃ e ∈ recursiveDirectory root, Listed e ∧ recordingId e = id := by
  rw [enumerate_ids, List.mem_map]
  simp [List.mem_filter, and_assoc]

/-- A recording has an id. -/
theorem recordingId_ne_empty (h : Listed e ∨ Stray e) : recordingId e ≠ "" := by
  have named : extension e.fileName ≠ [] := by
    rintro none
    obtain ⟨-, mp4 | ⟨raw, -⟩⟩ | ⟨-, raw, -⟩ := h <;> simp_all [kMp4Extension, kRawExtension]
  intro empty
  apply stem_ne_nil named
  simpa [recordingId] using empty

/-- A token is minted for the first recording that has the id. -/
theorem resolveRecordingPath_eq (h : id ≠ "") (root : Option (List FileNode)) :
    resolveRecordingPath id root =
      ((recursiveDirectory root).find? fun e => isRecording e && recordingId e == id).map (·.path) := by
  rw [resolveRecordingPath, if_neg h]
  simp only [recordingId]
  split <;> simp [*]

theorem resolveRecordingPath_isSome :
    (resolveRecordingPath id root).isSome = true ↔
      ∃ e ∈ recursiveDirectory root, (Listed e ∨ Stray e) ∧ recordingId e = id := by
  by_cases empty : id = ""
  · subst empty
    simp only [resolveRecordingPath, if_true, Option.isSome_none, Bool.false_eq_true, false_iff]
    rintro ⟨e, -, recording, same⟩
    exact recordingId_ne_empty recording same
  · rw [resolveRecordingPath_eq empty, Option.isSome_map, List.find?_isSome]
    simp [isRecording_iff]

/-- The condition: no two recordings in the catalogue have one id, and the id of a stray file is that
of a recording in the catalogue that the walk comes to earlier. -/
structure Unambiguous (root : Option (List FileNode)) : Prop where
  distinct : (recursiveDirectory root).Pairwise fun d e => Listed d → Listed e → recordingId d ≠ recordingId e
  covered : ∀ before e after, recursiveDirectory root = before ++ e :: after → Stray e →
    ∃ d ∈ before, Listed d ∧ recordingId d = recordingId e

/-- The catalogue and the tokens agree: what a token is minted for is what is listed, the ids listed
are distinct, and each authorises the file it was listed for. -/
structure Agrees (root : Option (List FileNode)) : Prop where
  same : ∀ (s : DownloadServer) (id generated : String) (ttlSeconds now : Nat),
    (s.mintToken id ttlSeconds root generated now).2.isSome = true ↔ id ∈ (enumerate root).map (·.recordingId)
  distinct : ((enumerate root).map (·.recordingId)).Nodup
  authorises : ∀ e ∈ recursiveDirectory root, ∀ summary, summarize e = some summary →
    ∀ (s : DownloadServer) (generated : String) (ttlSeconds now later : Nat), later < (now + ttlSeconds) % 2 ^ 64 →
      ((s.mintToken summary.recordingId ttlSeconds root generated now).1.validateToken generated later).2 = some e.path

/-- A token is minted if the id resolves, and authorises what it resolves to until it expires. -/
theorem mintToken_isSome (s : DownloadServer) (id generated : String) (ttlSeconds now : Nat) :
    (s.mintToken id ttlSeconds root generated now).2.isSome = (resolveRecordingPath id root).isSome := by
  rw [mintToken]
  cases resolveRecordingPath id root <;> rfl

theorem mintToken_authorises {s : DownloadServer} {generated : String} {ttlSeconds now later : Nat} {path : Path}
    (resolved : resolveRecordingPath id root = some path) (valid : later < (now + ttlSeconds) % 2 ^ 64) :
    ((s.mintToken id ttlSeconds root generated now).1.validateToken generated later).2 = some path := by
  rw [mintToken, resolved]
  simp only [validateToken, if_true]
  rw [if_neg (by omega)]

theorem nodup_enumerate_ids :
    ((enumerate root).map (·.recordingId)).Nodup ↔
      (recursiveDirectory root).Pairwise fun d e => Listed d → Listed e → recordingId d ≠ recordingId e := by
  rw [enumerate_ids, List.Nodup, List.pairwise_map, List.pairwise_filter]
  simp

/-- Without a clash the first recording that has the id of a listed one is that one. -/
theorem Unambiguous.resolves (h : Unambiguous root) (he : e ∈ recursiveDirectory root) (listed : Listed e) :
    resolveRecordingPath (recordingId e) root = some e.path := by
  rw [resolveRecordingPath_eq (recordingId_ne_empty (.inl listed)), Option.map_eq_some_iff]
  refine ⟨e, List.find?_eq_some_iff_append.2 ⟨by simp [isRecording_iff, listed], ?_⟩, rfl⟩
  obtain ⟨before, after, split⟩ := List.append_of_mem he
  have clash := split ▸ h.distinct
  rw [List.pairwise_append] at clash
  refine ⟨before, after, split, ?_⟩
  intro d hd
  simp only [Bool.not_eq_eq_eq_not, Bool.not_true, Bool.and_eq_false_imp, isRecording_iff, beq_eq_false_iff_ne]
  rintro (other | stray) same
  · exact clash.2.2 d hd e (List.mem_cons_self ..) other listed same
  · obtain ⟨earlier, later, split'⟩ := List.append_of_mem hd
    obtain ⟨c, hc, other, same'⟩ := h.covered earlier d (later ++ e :: after) (by simp [split, split']) stray
    apply clash.2.2 c _ e (List.mem_cons_self ..) other listed (same'.trans same)
    rw [split']
    exact List.mem_append_left _ hc

theorem Unambiguous.agrees (h : Unambiguous root) : Agrees root := by
  constructor
  · intro s id generated ttlSeconds now
    rw [mintToken_isSome, resolveRecordingPath_isSome, mem_enumerate_ids]
    constructor
    · rintro ⟨e, he, listed | stray, same⟩
      · exact ⟨e, he, listed, same⟩
      · obtain ⟨before, after, split⟩ := List.append_of_mem he
        obtain ⟨d, hd, listed, same'⟩ := h.covered before e after split stray
        refine ⟨d, ?_, listed, same'.trans same⟩
        rw [split]
        exact List.mem_append_left _ hd
    · rintro ⟨e, he, listed, same⟩
      exact ⟨e, he, .inl listed, same⟩
  · exact nodup_enumerate_ids.2 h.distinct
  · intro e he summary summarized s generated ttlSeconds now later valid
    have id := summarize_recordingId e
    rw [summarized] at id
    split at id
    case isTrue listed =>
      simp only [Option.map_some, Option.some.injEq] at id
      rw [id]
      exact mintToken_authorises (h.resolves he listed) valid
    case isFalse => cases id

/-- If each listed id authorises its file, it resolves to that file. -/
theorem Agrees.resolves (h : Agrees root) (he : e ∈ recursiveDirectory root) (listed : Listed e) :
    resolveRecordingPath (recordingId e) root = some e.path := by
  have id := summarize_recordingId e
  rw [if_pos listed, Option.map_eq_some_iff] at id
  obtain ⟨summary, summarized, id⟩ := id
  have authorised := h.authorises e he summary summarized {} "t" 1 0 0 (by decide)
  rw [id] at authorised
  cases resolved : resolveRecordingPath (recordingId e) root with
  | none => simp [mintToken, resolved, validateToken] at authorised
  | some path => rwa [mintToken_authorises resolved (by decide)] at authorised

/-- What an entry is depends on its path and on whether it is a regular file. -/
theorem not_stray_of_listed (same : d.path = e.path) (listed : Listed d) : ¬ Stray e := by
  rintro ⟨-, raw, unparsed⟩
  have name : d.fileName = e.fileName := congrArg (fun path : Path => path.getLast?.getD []) same
  obtain ⟨-, mp4 | ⟨-, parsed⟩⟩ := listed
  · rw [name, raw] at mp4
    cases mp4
  · rw [name, unparsed] at parsed
    cases parsed

theorem Agrees.unambiguous (h : Agrees root) : Unambiguous root := by
  constructor
  · exact nodup_enumerate_ids.1 h.distinct
  · intro before e after split stray
    have here : e ∈ recursiveDirectory root := by simp [split]
    -- the id of the stray file is listed, and resolves to the file it is listed for
    have minted := (h.same {} (recordingId e) "t" 1 0).1 (by
      rw [mintToken_isSome, resolveRecordingPath_isSome]
      exact ⟨e, here, .inr stray, rfl⟩)
    obtain ⟨d, hd, listed, same⟩ := mem_enumerate_ids.1 minted
    have resolved := h.resolves hd listed
    rw [same, resolveRecordingPath_eq (recordingId_ne_empty (.inr stray)), Option.map_eq_some_iff] at resolved
    obtain ⟨f, first, path⟩ := resolved
    have found := List.find?_some first
    simp only [Bool.and_eq_true, isRecording_iff, beq_iff_eq] at found
    have unstray := not_stray_of_listed path.symm listed
    -- so that file comes earlier
    rw [split, List.find?_append] at first
    cases earlier : before.find? fun e' => isRecording e' && recordingId e' == recordingId e with
    | some g =>
      rw [earlier, Option.some_or] at first
      cases first
      exact ⟨f, List.mem_of_find?_eq_some earlier, found.1.resolve_right unstray, found.2⟩
    | none =>
      rw [earlier, Option.none_or, List.find?_cons_of_pos (by simp [isRecording_iff, stray])] at first
      cases first
      exact absurd stray unstray

/-- **The catalogue and the tokens agree** exactly when no two recordings have one id, and no stray
file stands in for, or before, a recording. -/
theorem catalogue_agrees_iff (root : Option (List FileNode)) : Agrees root ↔ Unambiguous root :=
  ⟨Agrees.unambiguous, Unambiguous.agrees⟩

/-- Two users with a recording of one name. -/
def sharedName : Option (List FileNode) :=
  some
    [.directory ['u', '1'] [.regular ['g', '.', 'm', 'p', '4'] 4 0],
      .directory ['u', '2'] [.regular ['g', '.', 'm', 'p', '4'] 6 0]]

/-- The catalogue lists both, and the token is for the first. -/
theorem shared_name_disagrees : ¬ Agrees sharedName := by
  intro agrees
  have distinct := agrees.distinct
  revert distinct
  decide +kernel

end DownloadServer

end SstCam
