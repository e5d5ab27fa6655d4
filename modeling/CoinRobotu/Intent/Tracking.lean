import CoinRobotu.Intent.Operations

/-!
# What an operation has checked when it writes

A protocol follows an operation from outside. It remembers the status of the
row that the session holds, the status that the operation checked last or
committed itself, and what the session still has to write. It also remembers
whether the row was locked before it was read and has been locked since.

Every operation assigns a status only after a check from which the table
allows it. The one exception is a submission, which assigns `SUBMITTED` to an
intent that it found previewed. Positions are written only for an intent that
was found approved, and then the only status assigned is `RELEASED`.
-/

open Interleaving

namespace Intent

/-- What is known of the row in a session: its status as it was read. -/
inductive Held where
  | unread
  | unsure
  | read (status : IntentStatus)
deriving DecidableEq

structure Progress where
  held : Held
  seen : Option IntentStatus
  assigned : Option IntentStatus
  moving : Bool
  locked : Bool
deriving DecidableEq

namespace Progress

def initial : Progress := ⟨.unread, none, none, false, false⟩

def Calm (progress : Progress) : Prop := progress.assigned = none ∧ progress.moving = false

/-- The intent was found approved, and its status is not assigned yet. -/
structure Acts (progress : Progress) : Prop where
  seen : progress.seen = some .approved
  held : progress.held = .read .approved
  assigned : progress.assigned = none

def checked (progress : Progress) (status : IntentStatus) : Progress :=
  { progress with held := .read status, seen := some status }

def ended (progress : Progress) : Progress :=
  ⟨.unread, progress.assigned.or progress.seen, none, false, false⟩

end Progress

def Service.mayEnd : Service → Bool
  | .wallet => true
  | .pipeline => true
  | .commercialControl => true
  | .executionGuard => true
  | .openAllowed => true
  | _ => false

/-- From a status that was checked, the table allows the one assigned; a submission
assigns its own to a previewed intent. -/
def MayAssign (seen status : IntentStatus) : Prop :=
  status ∈ allowedTransitions seen ∨ (seen = .previewed ∧ status = .submitted)

/-- Whether an operation may do something. -/
def Progress.Allows (progress : Progress) : Action → Prop
  | .findByToken _ _ => progress.assigned = none
  | .findForUpdate _ => progress.assigned = none
  | .attributes => progress.assigned = none
  | .status => progress.assigned = none
  | .setStatus status =>
      progress.assigned = none ∧ (∃ known, progress.held = .read known) ∧
        (∃ seen, progress.seen = some seen ∧ MayAssign seen status) ∧
        (progress.moving = true → status = .released)
  | .write _ => progress.Acts
  | .refresh => progress.Calm
  | .call service => service.mayEnd = true → progress.Calm
  | _ => True

/-- What is known after an answer. -/
def Progress.after (progress : Progress) :
    (action : Action) → Except String action.Reply → Progress
  | .findByToken _ _, .ok (some row) => progress.checked row.status
  | .findForUpdate _, .ok (some row) =>
      { progress.checked row.status with
        locked := decide (progress.held = .unread) || progress.locked }
  | .attributes, .ok row => { progress with held := .read row.status }
  | .status, .ok status => progress.checked status
  | .setStatus status, .ok _ =>
      { progress with
        assigned := if progress.held = .read status then none else some status }
  | .write _, .ok _ => { progress with moving := true }
  | .commit, .ok _ => progress.ended
  | .refresh, .ok row => { progress with held := .read row.status, locked := false }
  | .call .commercialControl, .ok _ => progress
  | .call service, _ =>
      if service.mayEnd then { progress with held := .unsure, locked := false } else progress
  | _, _ => progress

def tracking : Protocol signature Task Progress where
  idle := .initial
  initial _ := .initial
  next progress command answer := progress.after command.action answer
  allows progress command := progress.Allows command.action
  possible _ _ := True

section Rules

variable {α β : Type} {returns : α → Progress → Prop} {progress : Progress}

/-- A program keeps to the protocol and returns as `returns` says; it may raise at any
time. -/
def Leads (program : Program signature α) (returns : α → Progress → Prop) (progress : Progress) :
    Prop :=
  program.Follows tracking returns (fun _ _ => True) progress

theorem leads_done {value : α} (holds : returns value progress) :
    Leads (pure value : Program signature α) returns progress := holds

variable {reason : String}

theorem leads_fail :
    Leads (.fail reason : Program signature α) returns progress := trivial

variable {rest : α → Program signature β}

theorem leads_bind {first : Program signature α}
    {between : α → Progress → Prop} {returns : β → Progress → Prop}
    (leads : Leads first between progress)
    (goesOn : ∀ value reached, between value reached → Leads (rest value) returns reached) :
    Leads (first >>= rest) returns progress :=
  (Program.follows_bind first rest).mpr
    (Program.follows_mono leads goesOn fun _ _ raised => raised)

theorem leads_ask {operation : Operation} {point : Point} {action : Action}
    {returns : action.Reply → Progress → Prop} (allowed : progress.Allows action)
    (replied : ∀ reply, returns reply (progress.after action (.ok reply))) :
    Leads (ask operation point action) returns progress :=
  (Program.follows_call _).mpr ⟨allowed, fun reply _ => replied reply, fun _ _ => trivial⟩

theorem leads_asked {operation : Operation} {point : Point} {action : Action}
    {rest : action.Reply → Program signature β} {returns : β → Progress → Prop}
    (allowed : progress.Allows action)
    (goesOn : ∀ reply, Leads (rest reply) returns (progress.after action (.ok reply))) :
    Leads (ask operation point action >>= rest) returns progress := by
  have asked : Leads (ask operation point action)
      (fun reply reached => reached = progress.after action (.ok reply)) progress :=
    leads_ask allowed fun _ => rfl
  apply leads_bind asked
  rintro reply _ rfl
  exact goesOn reply

variable {condition : Prop}

theorem leads_ensured [Decidable condition]
    {rest : Unit → Program signature β} {returns : β → Progress → Prop}
    (goesOn : condition → Leads (rest ()) returns progress) :
    Leads (ensure condition reason >>= rest) returns progress := by
  unfold ensure
  split
  · rename_i holds
    exact goesOn holds
  · trivial

theorem leads_required {found : Option α}
    {returns : β → Progress → Prop}
    (goesOn : ∀ value, found = some value → Leads (rest value) returns progress) :
    Leads (required reason found >>= rest) returns progress := by
  cases found with
  | none => trivial
  | some value => exact goesOn value rfl

theorem leads_ite [Decidable condition] {first second : Program signature α}
    (positive : condition → Leads first returns progress)
    (negative : ¬condition → Leads second returns progress) :
    Leads (if condition then first else second) returns progress := by
  split
  · exact positive ‹_›
  · exact negative ‹_›

theorem leads_whenever [Decidable condition] {program : Program signature Unit}
    {returns : Unit → Progress → Prop}
    (positive : condition → Leads program returns progress)
    (negative : ¬condition → returns () progress) :
    Leads (whenever condition program) returns progress :=
  leads_ite positive negative

end Rules

end Intent
