import CoinRobotu.Artifact.Evidence

/-!
# The artifact manifest shared by several callers

Each reading of the manifest and each writing of it is one step, and the steps of several callers
interleave. A caller that reads repairs the chain of what it has read, and writes it back later,
with an entry of its own where it writes an artifact. As long as every writing finds the manifest
as its caller has read it, no entry is dropped: the entries are those of the calls that have
returned, in the order of their writings.
-/

namespace Artifact

open Interleaving

variable {Thread : Type}

/-- How far a caller is. `verify_artifact` and `verify_all_artifacts` call `verify_manifest_chain`
after they have written the manifest. -/
inductive Progress where
  | idle
  | holding (call : Call) (manifest : Manifest)
  | between

/-- The directory, the number of identifiers drawn so far, the callers, and the identifiers of the
artifacts whose calls have returned. -/
structure Shared (Thread : Type) where
  directory : Export
  drawn : ℕ
  threads : Thread → Progress
  returned : List String

def Shared.start : Shared Thread := ⟨.empty, 0, fun _ => .idle, []⟩

/-- A step of a caller: it begins a call, and reads; it writes; it reads again. -/
inductive Action (Thread : Type) where
  | reads (thread : Thread) (call : Call)
  | writes (thread : Thread)
  | rereads (thread : Thread)

section Steps

variable [DecidableEq Thread] (digest : String → String) (uuid : ℕ → String)
  (shared : Shared Thread)

def Shared.move (thread : Thread) (progress : Progress) : Shared Thread :=
  { shared with threads := Function.update shared.threads thread progress }

def Shared.holds (thread : Thread) (call : Call) : Shared Thread :=
  shared.move thread (.holding call (ensureChain digest (readManifest shared.directory)))

def Shared.stamped (request : Request) : Request :=
  { request with artifactId := uuid shared.drawn }

/-- A caller begins a call, up to its first reading of the manifest. -/
def Shared.begin (thread : Thread) : Call → Shared Thread
  | .write request =>
    let request := shared.stamped uuid request
    let shared := { shared with drawn := shared.drawn + 1 }
    match request.unsigned with
    | none => shared
    | some data =>
      let directory := writeFile shared.directory request.filename (sign digest data)
      { shared with directory := directory }.holds digest thread (.write request)
  | call => shared.holds digest thread call

/-- A caller writes the manifest that it holds, and goes on until it reads again or returns. -/
def Shared.finish (thread : Thread) (manifest : Manifest) : Call → Shared Thread
  | .write request =>
    let entry := request.entry digest (request.unsigned.getD .noMembers)
    { shared with
      directory := writeManifest shared.directory (appendEntry digest manifest entry)
      returned := shared.returned ++ [request.artifactId] }.move thread .idle
  | .verify artifactId =>
    let directory := writeManifest shared.directory manifest
    { shared with directory := directory }.move thread
      (match findDocument directory manifest artifactId with
        | .error _ => .idle
        | .ok _ => .between)
  | .verifyAll _ =>
    { shared with directory := writeManifest shared.directory manifest }.move thread .between
  | .list | .verifyChain =>
    { shared with directory := writeManifest shared.directory manifest }.move thread .idle

/-- One step. -/
def step : Action Thread → Shared Thread
  | .reads thread call =>
    match shared.threads thread with
    | .idle => shared.begin digest uuid thread call
    | _ => shared
  | .writes thread =>
    match shared.threads thread with
    | .holding call manifest => shared.finish digest thread manifest call
    | _ => shared
  | .rereads thread =>
    match shared.threads thread with
    | .between => shared.holds digest thread .verifyChain
    | _ => shared

end Steps

section Alone

variable [DecidableEq Thread] {digest : String → String} {uuid : ℕ → String}
  {readTime : String → Option ℤ} {shared : Shared Thread} {thread : Thread}
  {progress : Progress} {manifest : Manifest}

@[simp] theorem move_threads_self : (shared.move thread progress).threads thread = progress :=
  Function.update_self ..

theorem move_threads_ne {other : Thread} (apart : other ≠ thread) :
    (shared.move thread progress).threads other = shared.threads other :=
  Function.update_of_ne apart ..

@[simp] theorem move_directory : (shared.move thread progress).directory = shared.directory := rfl

variable {call : Call}

@[simp] theorem holds_threads_self :
    (shared.holds digest thread call).threads thread =
      .holding call (ensureChain digest (readManifest shared.directory)) := move_threads_self

@[simp] theorem holds_directory :
    (shared.holds digest thread call).directory = shared.directory := rfl

theorem step_reads (isIdle : shared.threads thread = .idle) :
    step digest uuid shared (.reads thread call) = shared.begin digest uuid thread call := by
  simp only [step, isIdle]

theorem step_writes (isHolding : shared.threads thread = .holding call manifest) :
    step digest uuid shared (.writes thread) = shared.finish digest thread manifest call := by
  simp only [step, isHolding]

theorem step_rereads (isBetween : shared.threads thread = .between) :
    step digest uuid shared (.rereads thread) = shared.holds digest thread .verifyChain := by
  simp only [step, isBetween]

theorem idle_rest (isIdle : shared.threads thread = .idle) :
    afterAll (step digest uuid) shared [.rereads thread, .writes thread] = shared := by
  simp only [afterAll, List.foldl_cons, List.foldl_nil, step, isIdle]

theorem between_rest (isBetween : shared.threads thread = .between) :
    (afterAll (step digest uuid) shared [.rereads thread, .writes thread]).directory =
      (verifyManifestChain digest shared.directory).1 := by
  simp only [afterAll, List.foldl_cons, List.foldl_nil]
  rw [step_rereads isBetween, step_writes holds_threads_self]
  rfl

def Shared.drawnFor (uuid : ℕ → String) (shared : Shared Thread) : Call → Call
  | .write request => .write (shared.stamped uuid request)
  | call => call

/-- A call whose steps nobody else's come between does what the operation does. -/
theorem undivided_steps_perform (isIdle : shared.threads thread = .idle) :
    (afterAll (step digest uuid) shared
      [.reads thread call, .writes thread, .rereads thread, .writes thread]).directory =
        perform digest readTime shared.directory (shared.drawnFor uuid call) := by
  show (afterAll _ (step digest uuid (step digest uuid shared _) _) _).directory = _
  rw [step_reads isIdle]
  cases call with
  | write request =>
    cases isData : (shared.stamped uuid request).unsigned with
    | none =>
      have nothing : shared.begin digest uuid thread (.write request) =
          { shared with drawn := shared.drawn + 1 } := by
        simp only [Shared.begin, isData]
      have stays : step digest uuid { shared with drawn := shared.drawn + 1 } (.writes thread) =
          { shared with drawn := shared.drawn + 1 } := by
        simp only [step, isIdle]
      have rest := @idle_rest _ _ digest uuid { shared with drawn := shared.drawn + 1 } thread
        isIdle
      rw [nothing, stays, rest]
      simp only [Shared.drawnFor, perform, writeSignedArtifact, isData]
    | some data =>
      simp only [Shared.begin, isData]
      rw [step_writes holds_threads_self, Shared.finish, idle_rest move_threads_self]
      simp only [Shared.drawnFor, perform, writeSignedArtifact, isData]
      rfl
  | list =>
    show (afterAll _ (step digest uuid (shared.holds digest thread .list) _) _).directory = _
    rw [step_writes holds_threads_self, Shared.finish, idle_rest move_threads_self]
    rfl
  | verify artifactId =>
    show (afterAll _ (step digest uuid (shared.holds digest thread (.verify artifactId)) _)
      _).directory = _
    rw [step_writes holds_threads_self, Shared.finish, holds_directory]
    unfold Shared.drawnFor perform verifyArtifact
    dsimp only
    cases findDocument (writeManifest shared.directory
      (ensureChain digest (readManifest shared.directory)))
      (ensureChain digest (readManifest shared.directory)) artifactId with
    | error failure =>
      rw [idle_rest move_threads_self]
      rfl
    | ok found =>
      rw [between_rest move_threads_self]
      rfl
  | verifyChain =>
    show (afterAll _ (step digest uuid (shared.holds digest thread .verifyChain) _) _).directory = _
    rw [step_writes holds_threads_self, Shared.finish, idle_rest move_threads_self]
    rfl
  | verifyAll filters =>
    show (afterAll _ (step digest uuid (shared.holds digest thread (.verifyAll filters)) _)
      _).directory = _
    rw [step_writes holds_threads_self, Shared.finish, between_rest move_threads_self]
    rfl

end Alone

section Runs

variable {digest : String → String} {uuid : ℕ → String} {shared : Shared Thread} {thread : Thread}
  {actions : List (Action Thread)}

def lastHash (artifacts : List Entry) : String :=
  match artifacts.getLast? with
  | some last => last.chainHash.getD ""
  | none => "GENESIS"

/-- The artifact is in the manifest exactly once, with the position of its entry and the hash of the
entry before it. -/
def InPlace (artifacts : List Entry) (artifactId : String) : Prop :=
  ∃ earlier entry later, artifacts = earlier ++ entry :: later ∧ entry.artifactId = artifactId ∧
    (∀ other ∈ earlier ++ later, other.artifactId ≠ artifactId) ∧
      entry.chainPosition = some earlier.length ∧ entry.prevChainHash = some (lastHash earlier)

def Kept (shared : Shared Thread) : Prop :=
  ∀ artifactId ∈ shared.returned, InPlace (readManifest shared.directory).artifacts artifactId

/-- A writing finds the manifest as its caller has read it. -/
def FindsAsRead (digest : String → String) (shared : Shared Thread) : Action Thread → Prop
  | .writes thread => ∀ call manifest, shared.threads thread = .holding call manifest →
    ensureChain digest (readManifest shared.directory) = manifest
  | _ => True

def Progress.entering : Progress → Option String
  | .holding (.write request) _ => some request.artifactId
  | _ => none

/-- The entries are those of the calls that have returned, and no two artifacts share an
identifier. -/
structure Orderly (digest : String → String) (uuid : ℕ → String) (shared : Shared Thread) :
    Prop where
  intact : Intact digest (readManifest shared.directory).artifacts
  entries : (readManifest shared.directory).artifacts.map Entry.artifactId = shared.returned
  apart : shared.returned.Nodup
  drawn : ∀ artifactId ∈ shared.returned, ∃ number < shared.drawn, artifactId = uuid number
  entering : ∀ thread, ∀ artifactId ∈ (shared.threads thread).entering,
    artifactId ∉ shared.returned ∧ ∃ number < shared.drawn, artifactId = uuid number
  alone : ∀ thread other, ∀ artifactId ∈ (shared.threads thread).entering,
    artifactId ∈ (shared.threads other).entering → thread = other

theorem orderly_start : Orderly digest uuid (Shared.start : Shared Thread) where
  intact := trivial
  entries := rfl
  apart := List.nodup_nil
  drawn := nofun
  entering := nofun
  alone := nofun

theorem Orderly.kept (orderly : Orderly digest uuid shared) : Kept shared := by
  intro artifactId returned
  rw [← orderly.entries] at returned
  obtain ⟨entry, inside, rfl⟩ := List.mem_map.mp returned
  obtain ⟨earlier, later, split⟩ := List.append_of_mem inside
  have apart := orderly.apart
  rw [← orderly.entries, split, List.map_append, List.map_cons] at apart
  obtain ⟨_, laterApart, between⟩ := List.nodup_append.mp apart
  have intact := orderly.intact
  rw [split] at intact
  obtain ⟨_, fits, _⟩ := Chained.linked_append.mp intact
  rw [positionAfter_eq] at fits
  obtain ⟨isPosition, isPrev, _⟩ := fitsPosition_iff.mp fits
  refine ⟨earlier, entry, later, split, rfl, ?_, isPosition, isPrev⟩
  intro other isOther same
  rcases List.mem_append.mp isOther with isEarlier | isLater
  · exact between _ (List.mem_map_of_mem isEarlier) _ List.mem_cons_self same
  · exact (List.nodup_cons.mp laterApart).1 (same ▸ List.mem_map_of_mem isLater)

theorem Orderly.rewrite (orderly : Orderly digest uuid shared) :
    Orderly digest uuid { shared with
      directory := writeManifest shared.directory
        (ensureChain digest (readManifest shared.directory)) } := by
  have same : (ensureChain digest (readManifest shared.directory)).artifacts =
      (readManifest shared.directory).artifacts :=
    ensureChain_of_complete (linked_complete orderly.intact)
  exact
    { intact := same ▸ orderly.intact
      entries := (congrArg _ same).trans orderly.entries
      apart := orderly.apart
      drawn := orderly.drawn
      entering := orderly.entering
      alone := orderly.alone }

theorem Orderly.append (orderly : Orderly digest uuid shared) (entry : Entry)
    (isNew : entry.artifactId ∉ shared.returned)
    (isDrawn : ∃ number < shared.drawn, entry.artifactId = uuid number)
    (unentered : ∀ other, entry.artifactId ∉ (shared.threads other).entering) :
    Orderly digest uuid { shared with
      directory := writeManifest shared.directory
        (appendEntry digest (ensureChain digest (readManifest shared.directory)) entry)
      returned := shared.returned ++ [entry.artifactId] } := by
  have rewritten := orderly.rewrite
  refine ⟨intact_append.mpr rewritten.intact, ?_, ?_, ?_, ?_, orderly.alone⟩
  · show (_ ++ [_]).map Entry.artifactId = _
    rw [List.map_append]
    exact congrArg (· ++ [entry.artifactId]) rewritten.entries
  · rw [← List.concat_eq_append, List.nodup_concat]
    exact ⟨isNew, orderly.apart⟩
  · intro artifactId inside
    rcases List.mem_append.mp inside with before | isLast
    · exact orderly.drawn artifactId before
    · rw [List.mem_singleton.mp isLast]
      exact isDrawn
  · intro other artifactId inside
    obtain ⟨isOtherNew, isOtherDrawn⟩ := orderly.entering other artifactId inside
    refine ⟨fun returned => ?_, isOtherDrawn⟩
    rcases List.mem_append.mp returned with before | isLast
    · exact isOtherNew before
    · rw [List.mem_singleton.mp isLast] at inside
      exact unentered other inside

variable [DecidableEq Thread]

section Ordering

variable (orderly : Orderly digest uuid shared)

include orderly

theorem Orderly.move {progress : Progress}
    (same : ∀ artifactId ∈ progress.entering, artifactId ∈ (shared.threads thread).entering) :
    Orderly digest uuid (shared.move thread progress) := by
  have before : ∀ other, ∀ artifactId ∈ ((shared.move thread progress).threads other).entering,
      artifactId ∈ (shared.threads other).entering := by
    intro other artifactId inside
    by_cases isThread : other = thread
    · subst isThread
      rw [move_threads_self] at inside
      exact same artifactId inside
    · rwa [move_threads_ne isThread] at inside
  exact
    { intact := orderly.intact
      entries := orderly.entries
      apart := orderly.apart
      drawn := orderly.drawn
      entering := fun other artifactId inside =>
        orderly.entering other artifactId (before other artifactId inside)
      alone := fun first second artifactId inside otherInside =>
        orderly.alone first second artifactId (before first artifactId inside)
          (before second artifactId otherInside) }

theorem Orderly.enter {progress : Progress}
    {artifactId : String} (isEntering : progress.entering = some artifactId)
    (isNew : artifactId ∉ shared.returned)
    (isDrawn : ∃ number < shared.drawn, artifactId = uuid number)
    (unentered : ∀ other, artifactId ∉ (shared.threads other).entering) :
    Orderly digest uuid (shared.move thread progress) := by
  have entered_cases : ∀ other, ∀ entered ∈ ((shared.move thread progress).threads other).entering,
      other = thread ∧ entered = artifactId ∨
        other ≠ thread ∧ entered ∈ (shared.threads other).entering := by
    intro other entered inside
    by_cases isThread : other = thread
    · subst isThread
      rw [move_threads_self, isEntering] at inside
      exact .inl ⟨rfl, (Option.mem_some.mp inside).symm⟩
    · rw [move_threads_ne isThread] at inside
      exact .inr ⟨isThread, inside⟩
  refine ⟨orderly.intact, orderly.entries, orderly.apart, orderly.drawn, ?_, ?_⟩
  · intro other entered inside
    rcases entered_cases other entered inside with ⟨_, rfl⟩ | ⟨_, before⟩
    · exact ⟨isNew, isDrawn⟩
    · exact orderly.entering other entered before
  · intro first second entered inside otherInside
    rcases entered_cases first entered inside with ⟨rfl, rfl⟩ | ⟨_, before⟩
    · rcases entered_cases second entered otherInside with ⟨rfl, _⟩ | ⟨_, otherBefore⟩
      · rfl
      · exact absurd otherBefore (unentered second)
    · rcases entered_cases second entered otherInside with ⟨_, rfl⟩ | ⟨_, otherBefore⟩
      · exact absurd before (unentered first)
      · exact orderly.alone first second entered before otherBefore

theorem Orderly.begin (injective : Function.Injective uuid)
    {call : Call} : Orderly digest uuid (shared.begin digest uuid thread call) := by
  cases call with
  | write request =>
    have later : ∀ artifactId, (∃ number < shared.drawn, artifactId = uuid number) →
        ∃ number < shared.drawn + 1, artifactId = uuid number := by
      rintro artifactId ⟨number, small, isNumber⟩
      exact ⟨number, small.trans (Nat.lt_succ_self _), isNumber⟩
    have unused : ¬∃ number < shared.drawn, uuid shared.drawn = uuid number := by
      rintro ⟨number, small, same⟩
      exact absurd (injective same) small.ne'
    have more : ∀ directory, (readManifest directory).artifacts =
        (readManifest shared.directory).artifacts →
          Orderly digest uuid
            { shared with directory := directory, drawn := shared.drawn + 1 } := by
      intro directory same
      exact
        { intact := same ▸ orderly.intact
          entries := same ▸ orderly.entries
          apart := orderly.apart
          drawn := fun artifactId inside => later _ (orderly.drawn artifactId inside)
          entering := fun other artifactId inside =>
            (orderly.entering other artifactId inside).imp_right (later _)
          alone := orderly.alone }
    cases isData : (shared.stamped uuid request).unsigned with
    | none =>
      simp only [Shared.begin, isData]
      exact more shared.directory rfl
    | some data =>
      simp only [Shared.begin, isData]
      have isEntering : ∀ manifest, (Progress.holding (.write (shared.stamped uuid request))
          manifest).entering = some (uuid shared.drawn) := fun _ => rfl
      apply (more (writeFile shared.directory _ _) rfl).enter (isEntering _)
      · exact fun inside => unused (orderly.drawn _ inside)
      · exact ⟨shared.drawn, Nat.lt_succ_self _, rfl⟩
      · exact fun other inside => unused (orderly.entering other _ inside).2
  | list | verify | verifyChain | verifyAll => exact orderly.move nofun

theorem Orderly.finish {call : Call} {manifest : Manifest}
    (isHolding : shared.threads thread = .holding call manifest)
    (asRead : ensureChain digest (readManifest shared.directory) = manifest) :
    Orderly digest uuid (shared.finish digest thread manifest call) := by
  subst asRead
  cases call with
  | write request =>
    have isEntering : (shared.threads thread).entering = some request.artifactId := by
      rw [isHolding]
      rfl
    obtain ⟨isNew, isDrawn⟩ := orderly.entering thread _ (Option.mem_def.mpr isEntering)
    have idle : Orderly digest uuid (shared.move thread .idle) :=
      orderly.move nofun
    apply idle.append (request.entry digest (request.unsigned.getD .noMembers)) isNew isDrawn
    intro other inside
    by_cases isThread : other = thread
    · rw [isThread, move_threads_self] at inside
      cases inside
    · rw [move_threads_ne isThread] at inside
      exact isThread (orderly.alone other thread _ inside isEntering)
  | list | verifyChain | verifyAll => exact orderly.rewrite.move nofun
  | verify artifactId =>
    apply orderly.rewrite.move
    split <;> exact nofun

theorem Orderly.step (injective : Function.Injective uuid)
    {action : Action Thread} (asRead : FindsAsRead digest shared action) :
    Orderly digest uuid (Artifact.step digest uuid shared action) := by
  cases action with
  | reads thread call =>
    unfold Artifact.step
    dsimp only
    split
    · exact orderly.begin injective
    · exact orderly
  | writes thread =>
    cases isHolding : shared.threads thread with
    | holding call manifest =>
      rw [step_writes isHolding]
      exact orderly.finish isHolding (asRead call manifest isHolding)
    | idle =>
      simp only [Artifact.step, isHolding]
      exact orderly
    | between =>
      simp only [Artifact.step, isHolding]
      exact orderly
  | rereads thread =>
    unfold Artifact.step
    dsimp only
    split
    · exact orderly.move nofun
    · exact orderly

end Ordering

/-- Where every writing finds the manifest as its caller has read it, each artifact whose call has
returned is in the manifest exactly once and in its place, in every state on the way. -/
theorem artifacts_kept (injective : Function.Injective uuid)
    (asRead : EachMeets (step digest uuid) (FindsAsRead digest) Shared.start actions) :
    Throughout (step digest uuid) Kept Shared.start actions :=
  throughout_of_each orderly_start (fun _ orderly => orderly.kept)
    (fun _ _ orderly asRead => orderly.step injective asRead) asRead

theorem findsAsRead_holds {call : Call} :
    FindsAsRead digest (shared.holds digest thread call) (.writes thread) := by
  intro other manifest isHolding
  rw [holds_threads_self] at isHolding
  exact (Progress.holding.inj isHolding).2

theorem findsAsRead_at_once (isIdle : shared.threads thread = .idle) {call : Call} :
    FindsAsRead digest (step digest uuid shared (.reads thread call)) (.writes thread) := by
  rw [step_reads isIdle]
  cases call with
  | write request =>
    cases isData : (shared.stamped uuid request).unsigned with
    | none =>
      simp only [Shared.begin, isData]
      intro call manifest isHolding
      rw [isIdle] at isHolding
      cases isHolding
    | some data =>
      simp only [Shared.begin, isData]
      exact findsAsRead_holds
  | list | verify | verifyChain | verifyAll => exact findsAsRead_holds

def longerIds (number : ℕ) : String := String.ofList (List.replicate number 'a')

theorem longerIds_injective : Function.Injective longerIds := by
  intro number other same
  have lists := String.ofList_injective same
  simpa using congrArg List.length lists

def writeThenList : List (Action Bool) :=
  [.reads true (.write (plainRequest "")), .writes true, .reads false .list, .writes false]

/-- One caller reads the manifest to list it before another one writes an artifact, and writes it
back afterwards. -/
def listAroundWrite : List (Action Bool) :=
  [.reads false .list, .reads true (.write (plainRequest "")), .writes true, .writes false]

/-- The artifact is kept when it is listed afterwards. -/
theorem artifacts_kept_example :
    Throughout (step id longerIds) Kept Shared.start writeThenList ∧
      (afterAll (step id longerIds) Shared.start writeThenList).returned = [longerIds 0] := by
  constructor
  · apply artifacts_kept longerIds_injective
    have first : FindsAsRead id (step id longerIds Shared.start
        (.reads true (.write (plainRequest "")))) (.writes true) := findsAsRead_at_once rfl
    have second : FindsAsRead id (step id longerIds (afterAll (step id longerIds) Shared.start
        (writeThenList.take 2)) (.reads false .list)) (.writes false) := findsAsRead_at_once rfl
    exact eachMeets_cons.mpr ⟨trivial, eachMeets_cons.mpr ⟨first, eachMeets_cons.mpr
      ⟨trivial, eachMeets_cons.mpr ⟨second, eachMeets_nil⟩⟩⟩⟩
  · decide +kernel

theorem undivided_write_performs :
    (afterAll (step id longerIds) (Shared.start : Shared Bool) [.reads true
      (.write (plainRequest "")), .writes true, .rereads true, .writes true]).directory =
    perform id (fun _ => none) .empty
      ((Shared.start : Shared Bool).drawnFor longerIds (.write (plainRequest ""))) :=
  undivided_steps_perform rfl

/-- The artifact is dropped when the list is written back over it. -/
theorem listing_drops_artifact :
    (afterAll (step id longerIds) Shared.start listAroundWrite).returned = [longerIds 0] ∧
      (readManifest
        (afterAll (step id longerIds) Shared.start listAroundWrite).directory).artifacts = [] ∧
      ¬Kept (afterAll (step id longerIds) Shared.start listAroundWrite) := by
  have returned : (afterAll (step id longerIds) Shared.start listAroundWrite).returned =
      [longerIds 0] := by
    decide +kernel
  have nothing : (readManifest (afterAll (step id longerIds) Shared.start
      listAroundWrite).directory).artifacts = [] := by
    decide +kernel
  refine ⟨returned, nothing, fun kept => ?_⟩
  obtain ⟨earlier, entry, later, split, _⟩ := kept (longerIds 0)
    (returned ▸ List.mem_singleton_self _)
  rw [nothing] at split
  exact absurd split.symm (List.append_ne_nil_of_right_ne_nil _ (List.cons_ne_nil _ _))

end Runs

end Artifact
