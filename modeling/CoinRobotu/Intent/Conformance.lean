import CoinRobotu.Intent.Tracking

/-!
# Every operation follows the protocol

Each function of the source gets one judgment about where it leads. Functions
that only ask and note things lead from a calm session to a calm one, those
that act on a position lead from an approved intent to one whose positions are
to be written, and an operation as a whole follows the protocol from its start.
-/

open Interleaving

namespace Intent

variable {config : Config} {operation : Operation} {progress : Progress}

variable {α : Type}

variable {rest : UserExecutionIntent → Program signature α}

theorem leads_committed {committing refreshing : Point}
    {returns : α → Progress → Prop}
    (goesOn : ∀ row, Leads (rest row) returns (progress.ended.after .refresh (.ok row))) :
    Leads (do
      ask operation committing .commit
      let row ← ask operation refreshing .refresh
      rest row) returns progress := by
  apply leads_asked
  · trivial
  intro _
  apply leads_asked
  · exact ⟨rfl, rfl⟩
  exact goesOn

variable {returns : Unit → Progress → Prop}

theorem leads_ended {committing refreshing : Point}
    (holds : ∀ row, returns () (progress.ended.after .refresh (.ok row))) :
    Leads (do
      ask operation committing .commit
      let _ ← ask operation refreshing .refresh
      return ()) returns progress :=
  leads_committed fun row => leads_done (holds row)

theorem transition_leads {target : IntentStatus} (assigned : progress.assigned = none)
    (permitted : progress.moving = true → target = .released) :
    Leads (transition operation target)
      (fun _ reached => reached.moving = progress.moving ∧
        (reached.assigned = none ∨ reached.assigned = some target)) progress := by
  apply leads_asked
  · exact assigned
  intro current
  apply leads_ite
  · intro _
    exact leads_done ⟨rfl, .inl assigned⟩
  intro _
  apply leads_ite
  · intro listed
    apply leads_ask
    · exact ⟨assigned, ⟨current, rfl⟩, ⟨current, rfl, .inl listed⟩, permitted⟩
    intro _
    refine ⟨rfl, ?_⟩
    dsimp only [Progress.after]
    split
    · exact .inl rfl
    · exact .inr rfl
  · intro _
    exact leads_fail

theorem turnDown_leads {codes flags : List String} {reason : String}
    (calm : progress.Calm) :
    Leads (turnDown operation codes flags reason) returns progress := by
  apply leads_asked
  · exact calm.1
  intro intent
  apply leads_asked
  · trivial
  intro _
  apply leads_bind
  · apply transition_leads
    · exact calm.1
    · intro moving
      exact nomatch calm.2.symm.trans moving
  intro _ reached _
  exact leads_committed fun _ => leads_fail

/-- Nothing is to be written, and the operation has seen a certain status. -/
structure Progress.Settled (seen : Option IntentStatus) (progress : Progress) : Prop where
  calm : progress.Calm
  seen : progress.seen = seen

section Settled

variable {seen : Option IntentStatus}

theorem refreshWallet_leads (settled : progress.Settled seen) :
    Leads (refreshWallet operation) (fun _ => Progress.Settled seen) progress := by
  apply leads_asked
  · exact fun _ => settled.calm
  intro wallet
  apply leads_asked
  · exact settled.calm.1
  intro _
  apply leads_asked
  · trivial
  intro _
  apply leads_ite
  · exact fun _ => leads_done ⟨settled.calm, settled.seen⟩
  · exact fun _ => turnDown_leads settled.calm

theorem precheck_leads (settled : progress.Settled seen) :
    Leads (precheck operation) (fun _ => Progress.Settled seen) progress := by
  apply leads_asked
  · exact settled.calm.1
  intro _
  apply leads_ask
  · trivial
  · exact fun _ => ⟨settled.calm, settled.seen⟩

theorem service_leads {point : Point} {service : Service} (settled : progress.Settled seen) :
    Leads (ask operation point (.call service)) (fun _ => Progress.Settled seen) progress := by
  apply leads_ask
  · exact fun _ => settled.calm
  · intro reply
    cases service <;> exact ⟨settled.calm, settled.seen⟩

theorem whenever_leads {condition : Prop} [Decidable condition] {program : Program signature Unit}
    (settled : progress.Settled seen)
    (leads : Leads program (fun _ => Progress.Settled seen) progress) :
    Leads (whenever condition program) (fun _ => Progress.Settled seen) progress := by
  apply leads_whenever
  · exact fun _ => leads
  · exact fun _ => settled

variable (settled : progress.Settled seen)

include settled

theorem openingChecks_leads :
    Leads (openingChecks operation) (fun _ => Progress.Settled seen) progress := by
  apply leads_bind (service_leads settled)
  intro _ _ settled
  apply leads_asked
  · exact settled.calm.1
  intro _
  exact service_leads ⟨settled.calm, settled.seen⟩

theorem approvalChecks_leads :
    Leads approvalChecks (fun _ => Progress.Settled seen) progress := by
  apply leads_bind (openingChecks_leads settled)
  intro _ _ settled
  apply leads_bind (refreshWallet_leads settled)
  intro _ _ settled
  exact precheck_leads settled

theorem submissionChecks_leads :
    Leads submissionChecks (fun _ => Progress.Settled seen) progress := by
  apply leads_bind (openingChecks_leads settled)
  intro _ _ settled
  exact precheck_leads settled

theorem runPipeline_leads :
    Leads (runPipeline config) (fun _ => Progress.Settled seen) progress := by
  apply leads_asked
  · exact settled.calm.1
  intro _
  apply leads_bind
  · show Leads _ (fun _ => Progress.Settled seen) _
    apply leads_ite
    · exact fun _ => leads_done ⟨settled.calm, settled.seen⟩
    · exact fun _ => service_leads ⟨settled.calm, settled.seen⟩
  intro result _ settled
  apply leads_asked
  · exact settled.calm.1
  intro _
  apply leads_asked
  · trivial
  intro _
  apply leads_ite
  · exact fun _ => turnDown_leads settled.calm
  · exact fun _ => leads_done ⟨settled.calm, settled.seen⟩

end Settled

variable {point : Point}

variable {intentId : String}

section Loading

variable {returns : α → Progress → Prop} (calm : progress.Calm)
  (goesOn : ∀ (intent : UserExecutionIntent) (reached : Progress),
    reached.Settled (some intent.status) → reached.held = .read intent.status →
      Leads (rest intent) returns reached)

include calm goesOn

/-- Every operation that locks the row begins alike: what it has found is what it has
seen. -/
theorem leads_found :
    Leads (do
      let found ← ask operation point (.findForUpdate intentId)
      let intent ← required "intent_not_found" found
      rest intent) returns progress := by
  apply leads_asked
  · exact calm.1
  intro found
  apply leads_required
  rintro intent rfl
  exact goesOn intent _ ⟨calm, rfl⟩ rfl

theorem leads_looked {userId intentToken : String} :
    Leads (do
      let found ← ask operation point (.findByToken userId intentToken)
      let intent ← required "intent_not_found" found
      rest intent) returns progress := by
  apply leads_asked
  · exact calm.1
  intro found
  apply leads_required
  rintro intent rfl
  exact goesOn intent _ ⟨calm, rfl⟩ rfl

end Loading

variable {rest : Unit → Program signature α}

theorem leads_transition {target : IntentStatus}
    {returns : α → Progress → Prop} (calm : progress.Calm)
    (goesOn : ∀ reached, Leads (rest ()) returns reached) :
    Leads (transition operation target >>= rest) returns progress := by
  apply leads_bind
  · apply transition_leads
    · exact calm.1
    · intro moving
      exact nomatch calm.2.symm.trans moving
  · exact fun _ reached _ => goesOn reached

theorem leads_traced
    {returns : α → Progress → Prop} (goesOn : Leads (rest ()) returns progress) :
    Leads (ask operation point (.call .decisionTrace) >>= rest) returns progress := by
  apply leads_asked
  · exact nofun
  · exact fun _ => goesOn

theorem leads_assigned {columns : UserExecutionIntent → UserExecutionIntent}
    {returns : α → Progress → Prop}
    (goesOn : Leads (rest ()) returns progress) :
    Leads (ask operation point (.assign columns) >>= rest) returns progress := by
  apply leads_asked
  · trivial
  · exact fun _ => goesOn

variable {intentId adminNote : String}

theorem approve_leads {detailVersion : Option String}
    {readAcknowledged allowOverride : Bool} (calm : progress.Calm) :
    Leads (approve config intentId adminNote detailVersion readAcknowledged allowOverride)
      (fun _ => Progress.Calm) progress := by
  apply leads_found calm
  intro intent _ settled _
  apply leads_ensured
  intro _
  apply leads_ensured
  intro _
  apply leads_ensured
  intro _
  apply leads_ensured
  intro _
  apply leads_bind (whenever_leads settled (service_leads settled))
  intro _ _ settled
  apply leads_bind (service_leads settled)
  intro _ _ settled
  apply leads_bind (whenever_leads settled (service_leads settled))
  intro _ _ settled
  apply leads_bind (whenever_leads settled (approvalChecks_leads settled))
  intro _ _ settled
  apply leads_asked
  · exact settled.calm.1
  intro _
  apply leads_assigned
  apply leads_transition
  · exact settled.calm
  intro _
  apply leads_traced
  apply leads_asked
  · trivial
  intro _
  apply leads_ask
  · exact ⟨rfl, rfl⟩
  · exact fun _ => ⟨rfl, rfl⟩

variable {intent : UserExecutionIntent}

variable {position : Paper.PaperPosition}

/-- Acting on a position leads from an approved intent to one that is still found
approved, with rows of positions to be written. -/
theorem exitPrice_leads
    (acts : progress.Acts) :
    Leads (exitPrice intent position) (fun _ => Progress.Acts) progress := by
  unfold exitPrice
  cases intent.price with
  | some price => exact leads_done acts
  | none =>
    apply leads_ask
    · exact nofun
    · exact fun _ => acts

theorem settle_leads (acts : progress.Acts) :
    Leads (settle position) (fun _ => Progress.Acts) progress := by
  apply leads_asked
  · trivial
  intro _
  apply leads_asked
  · exact nofun
  intro _
  exact leads_done acts

theorem leads_written {write : PositionWrite}
    {returns : α → Progress → Prop} (acts : progress.Acts)
    (goesOn : ∀ reached : Progress, reached.Acts → Leads (rest ()) returns reached) :
    Leads (ask operation .attributes (.write write) >>= rest) returns progress := by
  apply leads_asked
  · exact acts
  intro _
  exact goesOn _ ⟨acts.seen, acts.held, acts.assigned⟩

variable {newId : String}

theorem openPositionFromIntent_leads
    (acts : progress.Acts) :
    Leads (openPositionFromIntent config intent newId) (fun _ => Progress.Acts) progress := by
  unfold openPositionFromIntent
  dsimp only
  split
  · exact leads_fail
  apply leads_bind
  · show Leads _ (fun _ => Progress.Acts) _
    apply leads_whenever
    · intro _
      apply leads_ask
      · exact nofun
      · exact fun _ => acts
    · exact fun _ => acts
  intro _ _ acts
  apply leads_asked
  · exact nofun
  intro _
  apply leads_asked
  · exact nofun
  intro price
  split
  · exact leads_fail
  · exact leads_written acts fun _ acts => settle_leads acts

theorem reversePosition_leads
    (acts : progress.Acts) :
    Leads (reversePosition intent position newId) (fun _ => Progress.Acts) progress := by
  apply leads_bind (exitPrice_leads acts)
  intro exitPrice _ acts
  apply leads_written acts
  intro _ acts
  apply leads_asked
  · exact nofun
  intro _
  apply leads_asked
  · exact nofun
  intro openPrice
  apply leads_written acts
  intro _ acts
  apply leads_asked
  · trivial
  intro _
  apply leads_asked
  · exact nofun
  intro _
  apply leads_asked
  · exact nofun
  intro _
  exact leads_done acts

theorem applyPositionActionIntent_leads
    (acts : progress.Acts) :
    Leads (applyPositionActionIntent intent newId) (fun _ => Progress.Acts) progress := by
  have settles : ∀ (position : Paper.PaperPosition) (write : PositionWrite) (reached : Progress),
      reached.Acts → Leads (do
        ask .execute .attributes (.write write)
        settle position) (fun _ => Progress.Acts) reached :=
    fun _ _ _ acts => leads_written acts fun _ acts => settle_leads acts
  unfold applyPositionActionIntent
  apply leads_ensured
  intro _
  apply leads_asked
  · trivial
  intro found
  apply leads_required
  rintro position rfl
  apply leads_ite
  · intro _
    exact leads_bind (exitPrice_leads acts) fun _ reached acts => settles _ _ reached acts
  intro _
  apply leads_ite
  · intro _
    apply leads_bind (exitPrice_leads acts)
    intro _ reached acts
    exact leads_ensured fun _ => settles _ _ reached acts
  intro _
  apply leads_ite
  · intro _
    exact reversePosition_leads acts
  intro _
  apply leads_ite
  · intro _
    exact leads_required fun _ _ => settles _ _ _ acts
  intro _
  apply leads_ite
  · intro _
    exact leads_required fun _ _ => settles _ _ _ acts
  · intro _
    exact leads_fail

theorem act_leads (acts : progress.Acts) :
    Leads (act config intent newId) (fun _ => Progress.Acts) progress := by
  apply leads_ite
  · exact fun _ => openPositionFromIntent_leads acts
  · exact fun _ => applyPositionActionIntent_leads acts

section Leading

variable (calm : progress.Calm)

include calm

theorem execute_leads {execution : Execution} :
    Leads (execute config intentId execution) (fun _ => Progress.Calm) progress := by
  apply leads_found calm
  intro intent found settled held
  apply leads_ensured
  intro approved
  rw [approved] at settled held
  have acts : found.Acts := ⟨settled.seen, held, settled.calm.1⟩
  apply leads_ensured
  intro _
  apply leads_ensured
  intro _
  apply leads_ensured
  intro _
  apply leads_asked
  · exact nofun
  intro _
  split
  · exact leads_fail
  apply leads_bind (act_leads acts)
  intro positionId _ acts
  apply leads_assigned
  apply leads_bind
  · exact transition_leads acts.assigned fun _ => rfl
  intro _ _ _
  apply leads_traced
  apply leads_traced
  apply leads_asked
  · trivial
  intro _
  apply leads_ask
  · exact ⟨rfl, rfl⟩
  · exact fun _ => ⟨rfl, rfl⟩

theorem releaseAutomatically_leads {submission : Submission} :
    Leads (releaseAutomatically config submission intentId) (fun _ _ => True) progress := by
  apply (Program.follows_attempt _ _).mpr
  have released : Leads (do
      let approved ← approve config intentId "auto_live_release" none true true
      let _ ← execute config approved.id
        ⟨submission.userId, "auto_live_release", true, none, submission.newPositionId⟩
      return ()) (fun _ _ => True) progress := by
    apply leads_bind (approve_leads calm)
    intro approved _ calm
    apply leads_bind (execute_leads calm)
    intro _ _ _
    exact leads_done trivial
  apply Program.follows_mono released
  · exact fun _ _ holds => holds
  · intro _ raised _
    apply leads_asked
    · exact nofun
    intro _
    exact leads_ended fun _ => trivial

theorem submit_leads {submission : Submission} :
    Leads (submit config submission) (fun _ _ => True) progress := by
  apply leads_looked calm
  intro intent _ settled _
  apply leads_ensured
  intro previewed
  rw [previewed] at settled
  apply leads_ensured
  intro _
  apply leads_bind (refreshWallet_leads settled)
  intro _ _ settled
  apply leads_bind (runPipeline_leads settled)
  intro _ _ settled
  apply leads_bind (whenever_leads settled (service_leads settled))
  intro _ _ settled
  apply leads_bind (whenever_leads settled (submissionChecks_leads settled))
  intro _ _ settled
  apply leads_asked
  · exact settled.calm.1
  intro row
  apply leads_assigned
  apply leads_asked
  · exact ⟨settled.calm.1, ⟨row.status, rfl⟩, ⟨_, settled.seen, .inr ⟨rfl, rfl⟩⟩,
      fun moving => nomatch settled.calm.2.symm.trans moving⟩
  intro _
  apply leads_committed
  intro submitted
  apply leads_asked
  · -- the row is submitted by now, unless another session had submitted it already
    refine ⟨rfl, ⟨_, rfl⟩, ?_, nofun⟩
    dsimp only [Progress.after, Progress.ended]
    split
    · exact ⟨_, settled.seen, .inl (by decide)⟩
    · exact ⟨_, rfl, .inl (by decide)⟩
  intro _
  apply leads_asked
  · exact nofun
  intro _
  apply leads_traced
  apply leads_committed
  intro queued
  apply leads_ite
  · exact fun _ => releaseAutomatically_leads ⟨rfl, rfl⟩
  · exact fun _ => leads_done trivial

theorem cancel_leads {userId intentToken : String} :
    Leads (cancel userId intentToken) (fun _ _ => True) progress := by
  apply leads_looked calm
  intro intent _ settled held
  apply leads_ensured
  intro cancellable
  apply leads_asked
  · have listed : .cancelled ∈ allowedTransitions intent.status := by
      revert cancellable
      cases intent.status <;> decide
    exact ⟨settled.calm.1, ⟨_, held⟩, ⟨_, settled.seen, .inl listed⟩,
      fun moving => nomatch settled.calm.2.symm.trans moving⟩
  intro _
  apply leads_traced
  exact leads_ended fun _ => trivial

theorem reject_leads {detailVersion : Option String}
    {readAcknowledged : Bool} :
    Leads (reject config intentId adminNote detailVersion readAcknowledged) (fun _ _ => True)
      progress := by
  apply leads_found calm
  intro intent _ settled _
  apply leads_ensured
  intro _
  apply leads_ensured
  intro _
  apply leads_ensured
  intro _
  apply leads_ensured
  intro _
  apply leads_transition
  · exact settled.calm
  intro _
  apply leads_assigned
  apply leads_traced
  exact leads_ended fun _ => trivial

theorem retry_leads :
    Leads (retry intentId adminNote) (fun _ _ => True) progress := by
  apply leads_found calm
  intro intent _ settled _
  apply leads_ensured
  intro _
  apply leads_ensured
  intro _
  apply leads_transition
  · exact settled.calm
  intro _
  apply leads_assigned
  exact leads_ended fun _ => trivial

theorem cancelByAdmin_leads :
    Leads (cancelByAdmin intentId adminNote) (fun _ _ => True) progress := by
  apply leads_found calm
  intro intent _ settled _
  apply leads_ensured
  intro _
  apply leads_transition
  · exact settled.calm
  intro _
  apply leads_assigned
  exact leads_ended fun _ => trivial

theorem edit_leads {intentId reason : String} {patch : Patch} :
    Leads (edit intentId reason patch) (fun _ _ => True) progress := by
  apply leads_found calm
  intro intent _ settled _
  apply leads_ensured
  intro _
  apply leads_ensured
  intro _
  apply leads_ensured
  intro _
  apply leads_assigned
  exact leads_ended fun _ => trivial

end Leading

theorem operations_governs (config : Config)
    (discipline : Discipline signature World Oracle Task Progress) :
    Governs (operations config) tracking discipline (fun _ => True) (fun _ _ => True) where
  answers _ _ _ _ := trivial
  tasks _ _ task _ := by
    have calm : Progress.initial.Calm := ⟨rfl, rfl⟩
    cases task with
    | submit submission => exact submit_leads calm
    | cancel userId intentToken => exact cancel_leads calm
    | approve intentId adminNote detailVersion readAcknowledged allowOverride =>
      exact leads_bind (approve_leads calm) fun _ _ _ => leads_done trivial
    | execute intentId execution =>
      exact leads_bind (execute_leads calm) fun _ _ _ => leads_done trivial
    | reject intentId adminNote detailVersion readAcknowledged => exact reject_leads calm
    | retry intentId adminNote => exact retry_leads calm
    | cancelByAdmin intentId adminNote => exact cancelByAdmin_leads calm
    | edit intentId reason patch => exact edit_leads calm

end Intent
