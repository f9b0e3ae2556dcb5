import SstCam.Network.DownloadServer
import Mathlib.Data.List.Induction

/-!
# Download tokens over whole runs

A run is a list of calls, each with what it finds: the time, the tree, and the token the generator
makes. What was minted in a run depends on its calls alone; the table that the server prunes as it
goes agrees with it at every instant.
-/

namespace SstCam
set_option autoImplicit false

inductive TokenCall where
  | mint (recordingId : String) (ttlSeconds : Nat) (root : Option (List FileNode)) (generated : String) (now : Nat)
  | validate (token : String) (now : Nat)

namespace TokenCall

def now : TokenCall → Nat
  | .mint _ _ _ _ now => now
  | .validate _ now => now

end TokenCall

/-- A token that was minted: the path it was minted for, when, and for how long. -/
structure Grant where
  token : String
  path : Path
  mintedAt : Nat
  ttlSeconds : Nat
  deriving DecidableEq, Repr

/-- The tokens minted in a run. -/
def grants (calls : List TokenCall) : List Grant :=
  calls.filterMap fun
    | .mint recordingId ttlSeconds root generated now =>
      (DownloadServer.resolveRecordingPath recordingId root).map fun path =>
        { token := generated, path, mintedAt := now, ttlSeconds }
    | .validate _ _ => none

/-- The clock does not go back, no token is made twice, and no expiry leaves a `uint64`. -/
structure Orderly (calls : List TokenCall) : Prop where
  clock : (calls.map (·.now)).Pairwise (· ≤ ·)
  distinct : ((grants calls).map (·.token)).Nodup
  bounded : ∀ g ∈ grants calls, g.mintedAt + g.ttlSeconds < 2 ^ 64

namespace Grant

/-- What the table holds for the token. -/
def entry (g : Grant) : TokenEntry := { path := g.path, expiresAtUnix := g.mintedAt + g.ttlSeconds }

end Grant

theorem grants_append (calls calls' : List TokenCall) : grants (calls ++ calls') = grants calls ++ grants calls' :=
  List.filterMap_append

theorem Orderly.earlier {calls calls' : List TokenCall} (h : Orderly (calls ++ calls')) : Orderly calls where
  clock := by
    have clock := h.clock
    rw [List.map_append, List.pairwise_append] at clock
    exact clock.1
  distinct := by
    have distinct := h.distinct
    rw [grants_append, List.map_append, List.nodup_append] at distinct
    exact distinct.1
  bounded := fun g hg => h.bounded g (by rw [grants_append]; exact List.mem_append_left _ hg)

/-- Calls that are left out leave an orderly run. -/
theorem Orderly.filter {calls : List TokenCall} {p : TokenCall → Bool} {last : TokenCall} (h : Orderly (calls ++ [last])) :
    Orderly (calls.filter p ++ [last]) := by
  have part : (calls.filter p ++ [last]).Sublist (calls ++ [last]) := List.filter_sublist.append_right [last]
  have granted : (grants (calls.filter p ++ [last])).Sublist (grants (calls ++ [last])) := part.filterMap _
  constructor
  · exact h.clock.sublist (part.map _)
  · exact h.distinct.sublist (granted.map _)
  · exact fun g hg => h.bounded g (granted.subset hg)

namespace DownloadServer

variable {s : DownloadServer} {calls : List TokenCall} {token : String} {now : Nat} {path : Path}

def step (s : DownloadServer) : TokenCall → DownloadServer
  | .mint recordingId ttlSeconds root generated now => (s.mintToken recordingId ttlSeconds root generated now).1
  | .validate token now => (s.validateToken token now).1

/-- The table agrees with what was minted: it holds nothing else, and of that all that has not expired. -/
structure Agree (granted : List Grant) (now : Nat) (s : DownloadServer) : Prop where
  sound : ∀ token entry, s.tokens token = some entry → ∃ g ∈ granted, g.token = token ∧ entry = g.entry
  complete : ∀ g ∈ granted, now < g.mintedAt + g.ttlSeconds → s.tokens g.token = some g.entry

variable {granted : List Grant} {g : Grant}

/-- Time passes. -/
theorem Agree.later {later : Nat} (h : s.Agree granted now) (le : now ≤ later) : s.Agree granted later where
  sound := h.sound
  complete := fun g hg valid => h.complete g hg (by omega)

/-- A new token goes into the table. -/
theorem Agree.mint (h : s.Agree granted now) (new : ∀ old ∈ granted, old.token ≠ g.token) :
    Agree (granted ++ [g]) now { s with tokens := fun token => if token = g.token then some g.entry else s.tokens token } := by
  constructor
  · intro token entry held
    simp only at held
    split at held
    case isTrue here =>
      cases held
      exact ⟨g, by simp, here.symm, rfl⟩
    case isFalse =>
      obtain ⟨old, hold, rest⟩ := h.sound token entry held
      exact ⟨old, List.mem_append_left _ hold, rest⟩
  · intro any hany valid
    obtain old | this := List.mem_append.1 hany
    · simp only
      rw [if_neg (new any old)]
      exact h.complete any old valid
    · simp [List.mem_singleton.1 this]

/-- A token that is forgotten has expired. -/
theorem Agree.validate (h : s.Agree granted now) (token : String) : (s.validateToken token now).1.Agree granted now := by
  rw [validateToken]
  cases held : s.tokens token with
  | none => exact h
  | some entry =>
    simp only
    split
    case isFalse => exact h
    case isTrue expired =>
      constructor
      · intro other entry' held'
        simp only at held'
        split at held'
        case isTrue => cases held'
        case isFalse => exact h.sound other entry' held'
      · intro g hg valid
        have there := h.complete g hg valid
        have other : g.token ≠ token := by
          rintro rfl
          rw [held] at there
          cases there
          simp only [Grant.entry] at expired
          omega
        simp only
        rw [if_neg other]
        exact there

/-- A call keeps the agreement. -/
theorem Agree.step {call : TokenCall} (h : s.Agree (grants calls) call.now) (orderly : Orderly (calls ++ [call])) :
    (s.step call).Agree (grants (calls ++ [call])) call.now := by
  rw [grants_append]
  cases call with
  | mint recordingId ttlSeconds root generated now =>
    rw [DownloadServer.step, mintToken]
    cases resolved : resolveRecordingPath recordingId root with
    | none =>
      simp only [grants, List.filterMap_cons, resolved, Option.map_none, List.filterMap_nil, List.append_nil]
      exact h
    | some path =>
      have minted : grants [.mint recordingId ttlSeconds root generated now] = [⟨generated, path, now, ttlSeconds⟩] := by
        simp [grants, resolved]
      have distinct := orderly.distinct
      have bounded := orderly.bounded
      rw [grants_append, minted] at distinct bounded
      rw [List.map_append, List.nodup_append] at distinct
      have sum := Nat.mod_eq_of_lt (bounded ⟨generated, path, now, ttlSeconds⟩ (by simp))
      rw [minted]
      simp only [sum]
      apply h.mint
      intro old hold
      exact distinct.2.2 old.token (List.mem_map_of_mem hold) generated (by simp)
  | validate token now =>
    rw [DownloadServer.step, grants, grants, List.filterMap_cons, List.filterMap_nil, List.append_nil]
    exact h.validate token

/-- The table agrees with what was minted after every orderly run. -/
theorem agree_run (orderly : Orderly calls) (latest : ∀ call ∈ calls, call.now ≤ now) :
    (calls.foldl DownloadServer.step {}).Agree (grants calls) now := by
  induction calls using List.reverseRecOn generalizing now with
  | nil => exact ⟨by simp, by simp [grants]⟩
  | append_singleton calls call ih =>
    have clock := orderly.clock
    rw [List.map_append, List.pairwise_append] at clock
    have before := ih orderly.earlier fun other hother => clock.2.2 other.now (List.mem_map_of_mem hother) call.now (by simp)
    rw [List.foldl_append]
    exact (before.step orderly).later (latest call (by simp))

/-- A table that agrees answers for a token what was minted. -/
theorem Agree.validateToken_iff (h : s.Agree granted now) :
    (s.validateToken token now).2 = some path ↔
      ∃ g ∈ granted, g.token = token ∧ g.path = path ∧ now < g.mintedAt + g.ttlSeconds := by
  rw [validateToken]
  constructor
  · intro answer
    cases held : s.tokens token with
    | none => simp [held] at answer
    | some entry =>
      obtain ⟨g, hg, same, rfl⟩ := h.sound token entry held
      simp only [held, Grant.entry] at answer
      split at answer
      case isTrue => cases answer
      case isFalse valid =>
        cases answer
        exact ⟨g, hg, same, rfl, by omega⟩
  · rintro ⟨g, hg, rfl, rfl, valid⟩
    have lasting : ¬ g.entry.expiresAtUnix ≤ now := Nat.not_le.2 valid
    rw [h.complete g hg valid]
    simp only
    rw [if_neg lasting]
    rfl

theorem validateToken_iff (orderly : Orderly (calls ++ [.validate token now])) :
    ((calls.foldl DownloadServer.step {}).validateToken token now).2 = some path ↔
      ∃ g ∈ grants calls, g.token = token ∧ g.path = path ∧ now < g.mintedAt + g.ttlSeconds := by
  have clock := orderly.clock
  rw [List.map_append, List.pairwise_append] at clock
  apply (agree_run orderly.earlier _).validateToken_iff
  intro call hcall
  exact clock.2.2 call.now (List.mem_map_of_mem hcall) now (by simp [TokenCall.now])

/-- The call mints or validates the token. -/
def concerns (token : String) : TokenCall → Bool
  | .mint _ _ _ generated _ => generated == token
  | .validate other _ => other == token

/-- The calls that concern a token mint what is minted of it. -/
theorem mem_grants_filter : g ∈ grants (calls.filter (concerns g.token)) ↔ g ∈ grants calls := by
  simp only [grants, List.mem_filterMap, List.mem_filter]
  constructor
  · rintro ⟨call, ⟨hcall, -⟩, made⟩
    exact ⟨call, hcall, made⟩
  · rintro ⟨call, hcall, made⟩
    refine ⟨call, ⟨hcall, ?_⟩, made⟩
    cases call with
    | mint recordingId ttlSeconds root generated now =>
      obtain ⟨path, -, rfl⟩ := Option.map_eq_some_iff.1 made
      simp [concerns]
    | validate other now => cases made

/-- **The tokens of a run.** A token authorises a path exactly if it was minted for that path and has
not expired. What happens to other tokens does not matter to it. And once refused it stays refused,
as long as it is not minted after that. -/
theorem download_tokens (orderly : Orderly (calls ++ [.validate token now])) :
    (∀ path, ((calls.foldl DownloadServer.step {}).validateToken token now).2 = some path ↔
      ∃ g ∈ grants calls, g.token = token ∧ g.path = path ∧ now < g.mintedAt + g.ttlSeconds) ∧
    ((calls.foldl DownloadServer.step {}).validateToken token now).2 =
      (((calls.filter (concerns token)).foldl DownloadServer.step {}).validateToken token now).2 ∧
    ∀ before between refusedAt, calls = before ++ .validate token refusedAt :: between →
      ((before.foldl DownloadServer.step {}).validateToken token refusedAt).2 = none →
      (∀ g ∈ grants between, g.token ≠ token) →
      ((calls.foldl DownloadServer.step {}).validateToken token now).2 = none := by
  refine ⟨fun path => validateToken_iff orderly, ?_, ?_⟩
  · apply Option.ext
    intro path
    rw [validateToken_iff orderly, validateToken_iff orderly.filter]
    constructor
    · rintro ⟨g, hg, rfl, rest⟩
      exact ⟨g, mem_grants_filter.2 hg, rfl, rest⟩
    · rintro ⟨g, hg, rfl, rest⟩
      exact ⟨g, mem_grants_filter.1 hg, rfl, rest⟩
  · rintro before between refusedAt rfl refused unminted
    have first : Orderly (before ++ [.validate token refusedAt]) := by
      have split : before ++ .validate token refusedAt :: between ++ [.validate token now] =
          before ++ [.validate token refusedAt] ++ (between ++ [.validate token now]) := by simp
      exact (split ▸ orderly).earlier
    have passed : refusedAt ≤ now := by
      have clock := orderly.clock
      rw [List.map_append, List.pairwise_append] at clock
      exact clock.2.2 refusedAt (by simp [TokenCall.now]) now (by simp [TokenCall.now])
    rw [Option.eq_none_iff_forall_ne_some]
    intro path accepted
    obtain ⟨g, hg, same, -, valid⟩ := (validateToken_iff orderly).1 accepted
    have early : g ∈ grants before := by
      rw [grants_append, List.mem_append] at hg
      exact hg.resolve_right fun later => unminted g later same
    have answered : ((before.foldl DownloadServer.step {}).validateToken token refusedAt).2 = some g.path :=
      (validateToken_iff first).2 ⟨g, early, same, rfl, by omega⟩
    rw [refused] at answered
    cases answered

/-- A tree with one recording. -/
def oneRecording : Option (List FileNode) := some [.regular ['g', '.', 'm', 'p', '4'] 4 0]

/-- A token in its last second. -/
theorem minted_authorises :
    (([.mint "g" 60 oneRecording "t" 5].foldl DownloadServer.step {}).validateToken "t" 64).2 =
      some [['g', '.', 'm', 'p', '4']] := by
  have orderly : Orderly ([.mint "g" 60 oneRecording "t" 5] ++ [.validate "t" 64]) :=
    ⟨by decide, by decide +kernel, by decide +kernel⟩
  apply ((download_tokens orderly).1 _).2
  exact ⟨⟨"t", [['g', '.', 'm', 'p', '4']], 5, 60⟩, by decide +kernel, rfl, rfl, by decide⟩

/-- A token is refused before it is minted, and accepted afterwards. -/
theorem refused_before_minted :
    Orderly [.validate "t" 5, .mint "g" 60 oneRecording "t" 5, .validate "t" 6] ∧
      (validateToken "t" 5 {}).2 = none ∧
      (([.validate "t" 5, .mint "g" 60 oneRecording "t" 5].foldl DownloadServer.step {}).validateToken "t" 6).2 =
        some [['g', '.', 'm', 'p', '4']] := by
  refine ⟨⟨by decide, by decide +kernel, by decide +kernel⟩, rfl, ?_⟩
  decide +kernel

end DownloadServer

end SstCam
