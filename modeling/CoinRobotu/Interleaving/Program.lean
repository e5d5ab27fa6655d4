import Mathlib.Logic.Basic

/-!
# Programs that issue commands to shared services

A program either has finished, has raised a failure nobody caught, or issues
one command and goes on with the command's answer. An answer is the reply the
service gave or the failure it raised, so one tree covers every pattern of
failures. Commands are the points between which other threads may run.

A protocol follows a program from outside: it sees the commands with their
answers and keeps a phase. `Program.Follows` says that a program issues only
the commands its phase allows, whatever the services answer, and what holds of
the phase when it returns or raises.
-/

namespace Interleaving

universe u

/-- The commands of a group of services, the reply each command is answered
with, and the failures any of them may raise instead. -/
structure Signature where
  Command : Type
  Reply : Command → Type
  Failure : Type

abbrev Signature.Answer (S : Signature) (command : S.Command) : Type :=
  Except S.Failure (S.Reply command)

abbrev Signature.Event (S : Signature) : Type := (command : S.Command) × S.Answer command

/-- A sequential program over the commands of `S`. -/
inductive Program (S : Signature) (α : Type) : Type where
  | done (value : α) : Program S α
  | fail (failure : S.Failure) : Program S α
  | issue (command : S.Command) (next : S.Answer command → Program S α) : Program S α

namespace Program

variable {S : Signature} {α β : Type}

/-- Continue with the returned value; a raised failure skips the continuation. -/
def bind : Program S α → (α → Program S β) → Program S β
  | .done value, rest => rest value
  | .fail failure, _ => .fail failure
  | .issue command next, rest => .issue command (fun answer => (next answer).bind rest)

def attempt : Program S α → (S.Failure → Program S α) → Program S α
  | .done value, _ => .done value
  | .fail failure, handler => handler failure
  | .issue command next, handler => .issue command (fun answer => (next answer).attempt handler)

def outcome (program : Program S α) : Program S (Except S.Failure α) :=
  (program.bind fun value => .done (.ok value)).attempt fun failure => .done (.error failure)

def call (command : S.Command) : Program S (S.Reply command) :=
  .issue command fun
    | .ok reply => .done reply
    | .error failure => .fail failure

def hasRaised : Program S α → Bool
  | .fail _ => true
  | _ => false

instance : Monad (Program S) where
  pure := .done
  bind := bind

@[simp] theorem pure_eq (value : α) : (pure value : Program S α) = .done value := rfl

@[simp] theorem bind_eq (program : Program S α) (rest : α → Program S β) :
    program >>= rest = program.bind rest := rfl

@[simp] theorem bind_done (value : α) (rest : α → Program S β) :
    (Program.done value).bind rest = rest value := rfl

@[simp] theorem bind_fail (failure : S.Failure) (rest : α → Program S β) :
    (Program.fail failure).bind rest = .fail failure := rfl

@[simp] theorem attempt_done (value : α) (handler : S.Failure → Program S α) :
    (Program.done value).attempt handler = .done value := rfl

@[simp] theorem attempt_fail (failure : S.Failure) (handler : S.Failure → Program S α) :
    (Program.fail failure).attempt handler = handler failure := rfl

end Program

/-- An observer of one thread. `idle` is the phase of a thread that runs no
task and `initial` the phase in which a task starts; `next` reads one command
with its answer; `allows` says which commands a phase permits; `possible` is
what the services promise about a command's answer in any state. -/
structure Protocol (S : Signature) (Task : Type) (Phase : Type u) where
  idle : Phase
  initial : Task → Phase
  next : Phase → (command : S.Command) → S.Answer command → Phase
  allows : Phase → S.Command → Prop
  possible : (command : S.Command) → S.Answer command → Prop

def Protocol.watch {S : Signature} (kind : S.Command → Prop) : Protocol S Empty Unit :=
  ⟨(), fun _ => (), fun _ _ _ => (), fun _ => kind, fun _ _ => True⟩

@[simp] theorem Protocol.watch_allows {S : Signature} (kind : S.Command → Prop) (phase : Unit) :
    (Protocol.watch kind).allows phase = kind := rfl

namespace Program

variable {S : Signature} {Task : Type} {Phase : Type u} {α β : Type}

/-- From the given phase the program issues only allowed commands, and it ends
by returning as `returns` says or by raising as `raises` says. -/
def Follows (protocol : Protocol S Task Phase) :
    Program S α → (α → Phase → Prop) → (S.Failure → Phase → Prop) → Phase → Prop
  | .done value, returns, _, phase => returns value phase
  | .fail failure, _, raises, phase => raises failure phase
  | .issue command next, returns, raises, phase =>
      protocol.allows phase command ∧ ∀ answer, protocol.possible command answer →
        (next answer).Follows protocol returns raises (protocol.next phase command answer)

variable {protocol : Protocol S Task Phase} {returns : α → Phase → Prop}
  {raises : S.Failure → Phase → Prop} {phase : Phase}

@[simp] theorem follows_done (value : α) :
    (Program.done value : Program S α).Follows protocol returns raises phase ↔
      returns value phase := Iff.rfl

@[simp] theorem follows_fail (failure : S.Failure) :
    (Program.fail failure : Program S α).Follows protocol returns raises phase ↔
      raises failure phase := Iff.rfl

@[simp] theorem follows_ite (condition : Prop) [Decidable condition] (first second : Program S α) :
    (if condition then first else second).Follows protocol returns raises phase ↔
      (condition → first.Follows protocol returns raises phase) ∧
        (¬condition → second.Follows protocol returns raises phase) := by
  by_cases holds : condition <;> simp [holds]

theorem follows_call (command : S.Command)
    {returns : S.Reply command → Phase → Prop} :
    (call command : Program S (S.Reply command)).Follows protocol returns raises phase ↔
      protocol.allows phase command ∧
        (∀ reply, protocol.possible command (.ok reply) →
          returns reply (protocol.next phase command (.ok reply))) ∧
        (∀ failure, protocol.possible command (.error failure) →
          raises failure (protocol.next phase command (.error failure))) := by
  constructor
  · rintro ⟨allowed, answers⟩
    exact ⟨allowed, fun reply => answers (.ok reply), fun failure => answers (.error failure)⟩
  · rintro ⟨allowed, replied, raised⟩
    refine ⟨allowed, fun answer => ?_⟩
    cases answer with
    | ok reply => exact replied reply
    | error failure => exact raised failure

/-- Sequencing hands the phase reached by the first program to the second. -/
@[simp] theorem follows_bind (program : Program S α) (rest : α → Program S β)
    {returns : β → Phase → Prop} :
    (program.bind rest).Follows protocol returns raises phase ↔
      program.Follows protocol
        (fun value reached => (rest value).Follows protocol returns raises reached)
          raises phase := by
  induction program generalizing phase with
  | done | fail => rfl
  | issue command next ih =>
    simp only [bind, Follows, ih]

@[simp] theorem follows_attempt (program : Program S α) (handler : S.Failure → Program S α) :
    (program.attempt handler).Follows protocol returns raises phase ↔
      program.Follows protocol returns
        (fun failure reached =>
          (handler failure).Follows protocol returns raises reached) phase := by
  induction program generalizing phase with
  | done | fail => rfl
  | issue command next ih =>
    simp only [attempt, Follows, ih]

@[simp] theorem follows_outcome (program : Program S α)
    {returns : Except S.Failure α → Phase → Prop} :
    program.outcome.Follows protocol returns raises phase ↔
      program.Follows protocol (fun value => returns (.ok value))
        (fun failure => returns (.error failure)) phase := by
  simp [outcome]

section Raising

variable {program : Program S α} {raises' : S.Failure → Phase → Prop}

theorem follows_mono {returns' : α → Phase → Prop}
    (follows : program.Follows protocol returns raises phase)
    (onReturn : ∀ value reached, returns value reached → returns' value reached)
    (onRaise : ∀ failure reached, raises failure reached → raises' failure reached) :
    program.Follows protocol returns' raises' phase := by
  induction program generalizing phase with
  | done value => exact onReturn value phase follows
  | fail failure => exact onRaise failure phase follows
  | issue command next ih =>
    exact ⟨follows.1, fun answer possible => ih answer (follows.2 answer possible)⟩

/-- The next program starts where the first one returns. -/
theorem follows_then {rest : α → Program S β} {returns' : β → Phase → Prop}
    (first : program.Follows protocol returns raises phase)
    (onReturn : ∀ value reached, returns value reached →
      (rest value).Follows protocol returns' raises' reached)
    (onRaise : ∀ failure reached, raises failure reached → raises' failure reached) :
    (program.bind rest).Follows protocol returns' raises' phase :=
  (follows_bind program rest).mpr (follows_mono first onReturn onRaise)

end Raising

theorem follows_and {program : Program S α} {lasting : Phase → Prop}
    (stable : ∀ reached command answer, lasting reached →
      lasting (protocol.next reached command answer))
    (follows : program.Follows protocol returns raises phase) (initially : lasting phase) :
    program.Follows protocol (fun value reached => returns value reached ∧ lasting reached)
      (fun failure reached => raises failure reached ∧ lasting reached) phase := by
  induction program generalizing phase with
  | done | fail => exact ⟨follows, initially⟩
  | issue command next ih =>
    exact ⟨follows.1, fun answer possible => ih answer
      (follows.2 answer possible) (stable phase command answer initially)⟩

/-- Every command the program can issue, after any answers, is of the kind. -/
def Only (kind : S.Command → Prop) (program : Program S α) : Prop :=
  program.Follows (.watch kind) (fun _ _ => True) (fun _ _ => True) ()

section Only

variable {kind : S.Command → Prop}

variable {program : Program S α}

theorem only_bind {rest : α → Program S β}
    (first : program.Only kind) (second : ∀ value, (rest value).Only kind) :
    (program.bind rest).Only kind :=
  follows_then first (fun value _ _ => second value) (fun _ _ _ => trivial)

theorem only_outcome (first : program.Only kind) :
    program.outcome.Only kind :=
  (follows_outcome program).mpr
    (follows_mono first (fun _ _ _ => trivial) (fun _ _ _ => trivial))

theorem only_attempt {handler : S.Failure → Program S α}
    (first : program.Only kind) (second : ∀ failure, (handler failure).Only kind) :
    (program.attempt handler).Only kind :=
  (follows_attempt program handler).mpr
    (follows_mono first (fun _ _ _ => trivial) (fun failure _ _ => second failure))

theorem only_mono {wider : S.Command → Prop} (implies : ∀ command, kind command → wider command)
    (only : program.Only kind) : program.Only wider := by
  induction program with
  | done | fail => trivial
  | issue command next ih =>
    exact ⟨implies command only.1,
      fun answer possible => ih answer (only.2 answer possible)⟩

/-- A program that follows a protocol issues only commands of a kind when the
protocol allows no others in the phases it can reach. -/
theorem only_of_follows {lasting : Phase → Prop}
    (follows : program.Follows protocol returns raises phase)
    (answerable : ∀ command answer, protocol.possible command answer)
    (stable : ∀ reached command answer, lasting reached →
      lasting (protocol.next reached command answer))
    (kinds : ∀ reached command, lasting reached → protocol.allows reached command → kind command)
    (initially : lasting phase) : program.Only kind := by
  induction program generalizing phase with
  | done | fail => trivial
  | issue command next ih =>
    exact ⟨kinds phase command initially follows.1, fun answer _ =>
      ih answer (follows.2 answer (answerable command answer))
        (stable phase command answer initially)⟩

/-- A program whose every command is allowed in the lasting phases and leaves
them lasting ends in a lasting phase. -/
theorem follows_lasting (lasting : Phase → Prop) (only : program.Only kind)
    (inert : ∀ reached command, lasting reached → kind command →
      protocol.allows reached command ∧
        ∀ answer, lasting (protocol.next reached command answer))
    (onReturn : ∀ value reached, lasting reached → returns value reached)
    (onRaise : ∀ failure reached, lasting reached → raises failure reached)
    (initially : lasting phase) : program.Follows protocol returns raises phase := by
  induction program generalizing phase with
  | done value => exact onReturn value phase initially
  | fail failure => exact onRaise failure phase initially
  | issue command next ih =>
    obtain ⟨allowed, stays⟩ := inert phase command initially only.1
    exact ⟨allowed, fun answer _ =>
      ih answer (only.2 answer trivial) (stays answer)⟩

/-- A program whose every command is allowed and leaves the phase as it is
ends in the phase it started from. -/
theorem follows_of_only (only : program.Only kind)
    (inert : ∀ command, kind command →
      protocol.allows phase command ∧ ∀ answer, protocol.next phase command answer = phase)
    (onReturn : ∀ value, returns value phase) (onRaise : ∀ failure, raises failure phase) :
    program.Follows protocol returns raises phase := by
  refine follows_lasting (fun reached => reached = phase) only ?_ ?_ ?_ rfl
  · rintro _ command rfl quiet
    exact inert command quiet
  · rintro value _ rfl
    exact onReturn value
  · rintro failure _ rfl
    exact onRaise failure

end Only

end Program

end Interleaving
