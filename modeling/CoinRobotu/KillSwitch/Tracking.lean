import CoinRobotu.KillSwitch.Operations

/-!
# How far a call has come

A protocol follows a call from outside. A call is under way from its reading of the control row to
its writing of the cache, and it owes the cache an entry from its commit of a mode on. Every call
commits a mode once at most, and it writes to the cache the mode that it has read or committed last.
-/

open Interleaving

namespace KillSwitch

section Tracking

/-- How far a call is. Under way it may owe the cache an entry, and may know the mode that it has
read last or committed. -/
inductive Progress where
  | idle
  | begun
  | rowless
  | busy (owes : Bool) (known : Option Bool)
  | done
  deriving DecidableEq, Repr

namespace Progress

def UnderWay : Progress → Prop
  | .busy _ _ => True
  | _ => False

def Owes : Progress → Prop
  | .busy owes _ => owes = true
  | _ => False

instance (progress : Progress) : Decidable progress.UnderWay := by
  cases progress <;> unfold UnderWay <;> infer_instance

instance (progress : Progress) : Decidable progress.Owes := by
  cases progress <;> unfold Owes <;> infer_instance

def after : Progress → (command : Command) → Except String command.Reply → Progress
  | .begun, .readControl, .ok true => .busy false none
  | .begun, .readControl, .ok false => .rowless
  | .busy owes _, .emergencyMode, .ok mode => .busy owes (some mode)
  | .busy _ _, .commitMode mode, .ok _ => .busy true (some mode)
  | .busy _ _, .setEntry _, .ok _ => .done
  | progress, _, _ => progress

/-- The row is read once and first, a mode is committed once, and the cache gets the mode that the
call knows. -/
def Allows : Progress → Command → Prop
  | .begun, command => command = .readControl ∨ command = .getEntry
  | .rowless, command => command ≠ .readControl ∧ ∀ mode, command ≠ .commitMode mode
  | .busy owes known, command => command ≠ .readControl ∧
      (∀ mode, command = .commitMode mode → owes = false) ∧
        ∀ payload, command = .setEntry payload → known = some payload.active
  | _, _ => False

end Progress

def tracking : Protocol signature Call Progress where
  idle := .idle
  initial _ := .begun
  next progress command answer := progress.after command answer
  allows progress command := progress.Allows command
  possible _ _ := True

abbrev Leads {Result : Type} (program : Program signature Result)
    (returns : Result → Progress → Prop) (progress : Progress) : Prop :=
  program.Follows tracking returns (fun _ _ => True) progress

def Command.quiet : Command → Bool
  | .readControl => false
  | .emergencyMode => false
  | .commitMode _ => false
  | .setEntry _ => false
  | _ => true

def Progress.Ready (progress : Progress) : Prop := progress = .rowless ∨ progress.UnderWay

variable {Result Other : Type} {returns : Result → Progress → Prop} {progress : Progress}
  {owes control : Bool} {known : Option Bool} {program : Program signature Result}

theorem leads_bind {next : Result → Program signature Other} {last : Other → Progress → Prop}
    (first : Leads program (fun value => Leads (next value) last) progress) :
    Leads (program >>= next) last progress := (Program.follows_bind program next).mpr first

theorem leads_ask {command : Command} {returns : command.Reply → Progress → Prop}
    (allowed : progress.Allows command)
    (replied : ∀ reply, returns reply (progress.after command (.ok reply))) :
    Leads (ask command) returns progress := by
  apply (Program.follows_call _).mpr
  exact ⟨allowed, fun reply _ => replied reply, fun _ _ => trivial⟩

theorem leads_quiet {command : Command} {returns : command.Reply → Progress → Prop}
    (ready : progress.Ready) (quiet : command.quiet = true)
    (replied : ∀ reply, returns reply progress) : Leads (ask command) returns progress := by
  rcases ready with rfl | underWay
  · apply leads_ask
    · constructor
      · rintro rfl
        cases quiet
      · rintro mode rfl
        cases quiet
    · exact replied
  · cases progress with
    | busy owes known =>
      apply leads_ask
      · refine ⟨?_, ?_, ?_⟩
        · rintro rfl
          cases quiet
        · rintro mode rfl
          cases quiet
        · rintro payload rfl
          cases quiet
      · intro reply
        have same : (Progress.busy owes known).after command (.ok reply) = .busy owes known := by
          cases command <;> first | rfl | cases quiet
        rw [same]
        exact replied reply
    | _ => cases underWay

variable {returns : Unit → Progress → Prop}

theorem leads_whenever {condition : Prop} [Decidable condition] {program : Program signature Unit}
    (taken : condition → Leads program returns progress)
    (skipped : ¬condition → returns () progress) :
    Leads (whenever condition program) returns progress := by
  unfold whenever
  split
  · exact taken ‹_›
  · exact skipped ‹_›

theorem takeReadings_leads {returns : Readings → Progress → Prop} (ready : progress.Ready)
    (taken : ∀ readings, returns readings progress) : Leads takeReadings returns progress := by
  unfold takeReadings
  iterate 7
    apply leads_bind
    apply leads_quiet ready rfl
    intro _
  exact taken _

theorem ready_busy : (Progress.busy owes known).Ready := .inr trivial

theorem emergencyMode_leads {fallback : Bool} {returns : Bool → Progress → Prop}
    (read : ∀ mode, returns mode (.busy owes (some mode))) :
    Leads (emergencyMode true fallback) returns (.busy owes known) := by
  apply leads_ask
  · exact ⟨nofun, nofun, nofun⟩
  · exact read

theorem commitMode_leads {mode : Bool}
    (committed : returns () (.busy true (some mode))) :
    Leads (ask (.commitMode mode)) returns (.busy false known) := by
  apply leads_ask
  · exact ⟨nofun, fun _ _ => rfl, nofun⟩
  · exact fun _ => committed

theorem setEntry_leads {payload : Payload}
    (written : returns () .done) :
    Leads (ask (.setEntry payload)) returns (.busy owes (some payload.active)) := by
  apply leads_ask
  · refine ⟨nofun, nofun, fun other same => ?_⟩
    cases same
    rfl
  · exact fun _ => written

theorem trigger_leads
    (triggered : returns () (.busy true (some true))) :
    Leads trigger returns (.busy false known) := by
  apply leads_bind
  apply commitMode_leads
  apply leads_bind
  apply leads_quiet ready_busy rfl
  intro _
  exact leads_quiet ready_busy rfl fun _ => triggered

theorem alerted_leads {readings : Readings}
    (ready : progress.Ready) (next : returns () progress) :
    Leads (whenever ("daily_loss_exceeded" ∈ readings.reasons)
      (ask (.createSystemAlert "daily_loss_limit_hit"))) returns progress :=
  leads_whenever (fun _ => leads_quiet ready rfl fun _ => next) fun _ => next

theorem evaluateKillSwitch_leads :
    Leads evaluateKillSwitch (fun _ progress => ¬progress.Owes) .begun := by
  apply leads_bind
  apply leads_ask
  · exact .inl rfl
  intro control
  cases control with
  | true =>
    apply leads_bind
    apply takeReadings_leads ready_busy
    intro readings
    apply leads_bind
    apply alerted_leads ready_busy
    apply leads_bind
    apply emergencyMode_leads
    intro currentActive
    apply leads_bind
    -- Whether or not it triggers, the call reads the mode again before it writes the cache.
    have written : ∀ {owes : Bool} {known : Option Bool}, Leads (do
        let effectiveActive ← emergencyMode true (decide (readings.reasons ≠ []))
        let payload : Payload := {
          triggered := effectiveActive
          active := effectiveActive
          reasons := if effectiveActive ∧ readings.reasons = [] then ["manual_emergency_mode"]
            else readings.reasons
          evaluated := some readings.evaluated }
        ask (.setEntry payload)
        return payload) (fun _ progress => ¬progress.Owes) (.busy owes known) := by
      intro owes known
      apply leads_bind
      apply emergencyMode_leads
      intro effectiveActive
      apply leads_bind
      apply setEntry_leads
      exact id
    apply leads_whenever
    · exact fun _ => trigger_leads written
    · exact fun _ => written
  | false =>
    have ready : Progress.rowless.Ready := .inl rfl
    apply leads_bind
    apply takeReadings_leads ready
    intro readings
    apply leads_bind
    apply alerted_leads ready
    apply leads_bind
    apply leads_bind
    apply leads_whenever
    · exact fun ⟨never, _⟩ => by cases never
    · intro _
      apply leads_bind
      apply leads_bind
      apply leads_ask
      · exact ⟨nofun, nofun⟩
      · exact fun _ => id

theorem resetKillSwitch_leads :
    Leads resetKillSwitch (fun _ progress => ¬progress.Owes) .begun := by
  apply leads_bind
  apply leads_ask
  · exact .inl rfl
  intro control
  cases control with
  | true =>
    apply leads_bind
    apply leads_bind
    apply commitMode_leads
    apply leads_quiet ready_busy rfl
    intro _
    apply leads_bind
    have written : Leads (ask (.setEntry .inactive)) (fun _ progress => ¬progress.Owes)
        (.busy true (some false)) := setEntry_leads id
    exact written
  | false =>
    apply leads_bind
    apply leads_bind
    apply leads_ask
    · exact ⟨nofun, nofun⟩
    · exact fun _ => id

theorem killSwitch_governs (discipline : Discipline signature World Oracle Call Progress) :
    Governs killSwitch tracking discipline (fun progress => ¬progress.Owes) (fun _ _ => True) where
  answers _ _ _ _ := trivial
  tasks _ _ call _ := by
    cases call with
    | evaluate => exact leads_bind evaluateKillSwitch_leads
    | reset => exact leads_bind resetKillSwitch_leads
    | state =>
      apply leads_bind
      apply leads_bind
      apply leads_ask
      · exact .inr rfl
      · exact fun _ => id

end Tracking

end KillSwitch
