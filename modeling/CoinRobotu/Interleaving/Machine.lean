import Mathlib.Logic.Function.Basic
import Mathlib.Logic.Relation
import CoinRobotu.Interleaving.Program

/-!
# Threads of programs over one shared world

Any number of threads each run one task at a time. A step executes the next
command of one thread against the shared world, so the interleavings are
exactly the orders of commands. A thread may also crash between two commands.
What the environment decides at a command, such as a failure, the time or a
fresh identifier, is the step's oracle.
-/

namespace Interleaving

universe u

abbrev Thread := Nat

/-- How the world executes commands. `opens` prepares what a task owns when a
thread starts it and `closes` discards that when the task ends or crashes. -/
structure Service (S : Signature) (World Oracle : Type) where
  perform : Thread → Oracle → (command : S.Command) → World → World × S.Answer command
  opens : Thread → World → World
  closes : Thread → World → World

/-- A service together with the program of each task. -/
structure System (S : Signature) (World Oracle Task : Type) extends Service S World Oracle where
  code : Task → Program S Unit

/-- A task in progress: the commands already answered, the command to issue
next and what follows it. -/
structure Running (S : Signature) (Task : Type) where
  task : Task
  past : List S.Event
  command : S.Command
  next : S.Answer command → Program S Unit

/-- The whole state. `started` and `trace` record the run and are never read by
a program. -/
structure Machine (S : Signature) (World Task : Type) where
  world : World
  threads : Thread → Option (Running S Task)
  started : List Task
  trace : List (Thread × S.Event)

inductive Label (Oracle Task : Type) where
  | start (thread : Thread) (task : Task)
  | run (thread : Thread) (oracle : Oracle)
  | crash (thread : Thread)

def Label.thread {Oracle Task : Type} : Label Oracle Task → Thread
  | .start thread _ => thread
  | .run thread _ => thread
  | .crash thread => thread

section Steps

variable {S : Signature} {World Oracle Task : Type} (system : System S World Oracle Task)

namespace Machine

def atRest (world : World) : Machine S World Task := ⟨world, fun _ => none, [], []⟩

/-- Keep the rest of a program in its thread, or close the task once it ended. -/
def resume (machine : Machine S World Task) (thread : Thread) (task : Task)
    (past : List S.Event) : Program S Unit → Machine S World Task
  | .issue command next =>
      { machine with
        threads := Function.update machine.threads thread (some ⟨task, past, command, next⟩) }
  | _ =>
      { machine with
        world := system.closes thread machine.world
        threads := Function.update machine.threads thread none }

/-- One step; a label that does not apply to the machine has none. -/
def step (machine : Machine S World Task) : Label Oracle Task → Option (Machine S World Task)
  | .start thread task =>
      if (machine.threads thread).isNone then
        some (resume system
          { machine with
            world := system.opens thread machine.world
            started := machine.started ++ [task] }
          thread task [] (system.code task))
      else none
  | .run thread oracle =>
      (machine.threads thread).map fun running =>
        let result := system.perform thread oracle running.command machine.world
        resume system
          { machine with
            world := result.1
            trace := machine.trace ++ [(thread, ⟨running.command, result.2⟩)] }
          thread running.task (running.past ++ [⟨running.command, result.2⟩])
          (running.next result.2)
  | .crash thread =>
      (machine.threads thread).map fun _ =>
        { machine with
          world := system.closes thread machine.world
          threads := Function.update machine.threads thread none }

def steps : List (Label Oracle Task) → Machine S World Task → Option (Machine S World Task)
  | [], machine => some machine
  | label :: labels, machine => (machine.step system label).bind (steps labels)

def stepsIf (test : Machine S World Task → Label Oracle Task → Bool) :
    List (Label Oracle Task) → Machine S World Task → Option (Machine S World Task)
  | [], machine => some machine
  | label :: labels, machine =>
      if test machine label then (machine.step system label).bind (stepsIf test labels) else none

theorem steps_of_stepsIf {test : Machine S World Task → Label Oracle Task → Bool}
    {labels : List (Label Oracle Task)} {before after : Machine S World Task}
    (evaluated : stepsIf system test labels before = some after) :
    steps system labels before = some after := by
  induction labels generalizing before with
  | nil => exact evaluated
  | cons label labels ih =>
    simp only [stepsIf, Option.ite_none_right_eq_some] at evaluated
    obtain ⟨middle, stepped, remaining⟩ := Option.bind_eq_some_iff.mp evaluated.2
    exact Option.bind_eq_some_iff.mpr ⟨middle, stepped, ih remaining⟩

def Lone (machine : Machine S World Task) (thread : Thread) : Prop :=
  ∀ other, other ≠ thread → machine.threads other = none

variable {system}

theorem resume_other (machine : Machine S World Task) (thread : Thread) (task : Task)
    (past : List S.Event) (program : Program S Unit) {other : Thread} (different : other ≠ thread) :
    (machine.resume system thread task past program).threads other = machine.threads other := by
  cases program <;> simp [resume, different]

theorem step_other {machine after : Machine S World Task} {label : Label Oracle Task}
    (stepped : machine.step system label = some after) {other : Thread}
    (different : other ≠ label.thread) : after.threads other = machine.threads other := by
  cases label with
  | start thread task =>
    simp only [step, Option.ite_none_right_eq_some, Option.some.injEq] at stepped
    obtain ⟨_, rfl⟩ := stepped
    exact resume_other _ _ _ _ _ different
  | run thread oracle =>
    simp only [step, Option.map_eq_some_iff] at stepped
    obtain ⟨running, _, rfl⟩ := stepped
    exact resume_other _ _ _ _ _ different
  | crash thread =>
    simp only [step, Option.map_eq_some_iff] at stepped
    obtain ⟨running, _, rfl⟩ := stepped
    exact Function.update_of_ne different _ _

theorem lone_steps {before after : Machine S World Task} {thread : Thread}
    {labels : List (Label Oracle Task)} (lone : before.Lone thread)
    (own : ∀ label ∈ labels, label.thread = thread)
    (evaluated : steps system labels before = some after) : after.Lone thread := by
  induction labels generalizing before with
  | nil =>
    cases evaluated
    exact lone
  | cons label labels ih =>
    obtain ⟨middle, stepped, remaining⟩ := Option.bind_eq_some_iff.mp evaluated
    have isOwn := own label List.mem_cons_self
    have stillLone : middle.Lone thread := fun other different =>
      (step_other stepped (isOwn ▸ different)).trans (lone other different)
    exact ih stillLone
      (fun other inside => own other (List.mem_cons_of_mem label inside)) remaining

theorem Lone.idle {machine : Machine S World Task} {thread : Thread} (lone : machine.Lone thread)
    (ended : machine.threads thread = none) (other : Thread) : machine.threads other = none := by
  by_cases own : other = thread
  · exact own ▸ ended
  · exact lone other own

end Machine

/-- A run whose every label is permitted in the machine it is taken from. -/
inductive Run (permits : Machine S World Task → Label Oracle Task → Prop)
    (before : Machine S World Task) :
    List (Label Oracle Task) → Machine S World Task → Prop where
  | rest : Run permits before [] before
  | step {labels : List (Label Oracle Task)} {machine after : Machine S World Task}
      (earlier : Run permits before labels machine) (label : Label Oracle Task)
      (permitted : permits machine label) (stepped : machine.step system label = some after) :
      Run permits before (labels ++ [label]) after

variable {system} {permits : Machine S World Task → Label Oracle Task → Prop}

theorem Run.trans {before middle after : Machine S World Task}
    {first second : List (Label Oracle Task)} (earlier : Run system permits before first middle)
    (later : Run system permits middle second after) :
    Run system permits before (first ++ second) after := by
  induction later with
  | rest => simpa only [List.append_nil] using earlier
  | step _ label permitted stepped ih =>
    simpa only [List.append_assoc] using ih.step label permitted stepped

variable {before after : Machine S World Task}

variable {labels : List (Label Oracle Task)}

theorem Run.mono {wider : Machine S World Task → Label Oracle Task → Prop}
    (implies : ∀ machine label, permits machine label → wider machine label)
    (run : Run system permits before labels after) : Run system wider before labels after := by
  induction run with
  | rest => exact .rest
  | step _ label permitted stepped ih =>
    exact ih.step label (implies _ label permitted) stepped

theorem Run.of_steps (permitted : ∀ machine label, permits machine label)
    (evaluated : Machine.steps system labels before = some after) :
    Run system permits before labels after := by
  induction labels generalizing before with
  | nil =>
    cases evaluated
    exact .rest
  | cons label labels ih =>
    obtain ⟨middle, stepped, remaining⟩ := Option.bind_eq_some_iff.mp evaluated
    have first : Run system permits before ([] ++ [label]) middle :=
      Run.rest.step label (permitted before label) stepped
    exact first.trans (ih remaining)

variable {test : Machine S World Task → Label Oracle Task → Bool}

theorem Run.of_tested
    (permitted : ∀ machine label, test machine label = true → permits machine label)
    (evaluated : Machine.stepsIf system test labels before = some after) :
    Run system permits before labels after := by
  induction labels generalizing before with
  | nil =>
    cases evaluated
    exact .rest
  | cons label labels ih =>
    simp only [Machine.stepsIf, Option.ite_none_right_eq_some] at evaluated
    obtain ⟨tested, remaining⟩ := evaluated
    obtain ⟨middle, stepped, remaining⟩ := Option.bind_eq_some_iff.mp remaining
    have first : Run system permits before ([] ++ [label]) middle :=
      Run.rest.step label (permitted before label tested) stepped
    exact first.trans (ih remaining)

/-- Steps of one thread form a run when the test they pass implies, for a
machine in which no other thread has a task, that the step is permitted. -/
theorem Run.of_stepsIf (thread : Thread)
    (permitted : ∀ machine label, machine.Lone thread → label.thread = thread →
      test machine label = true → permits machine label)
    (lone : before.Lone thread) (own : ∀ label ∈ labels, label.thread = thread)
    (evaluated : Machine.stepsIf system test labels before = some after) :
    Run system permits before labels after := by
  induction labels generalizing before with
  | nil =>
    cases evaluated
    exact .rest
  | cons label labels ih =>
    simp only [Machine.stepsIf, Option.ite_none_right_eq_some] at evaluated
    obtain ⟨tested, remaining⟩ := evaluated
    obtain ⟨middle, stepped, remaining⟩ := Option.bind_eq_some_iff.mp remaining
    have isOwn := own label List.mem_cons_self
    have first : Run system permits before ([] ++ [label]) middle :=
      Run.rest.step label (permitted before label lone isOwn tested) stepped
    have stillLone : middle.Lone thread := fun other different =>
      (Machine.step_other stepped (isOwn ▸ different)).trans (lone other different)
    exact first.trans (ih stillLone
      (fun other inside => own other (List.mem_cons_of_mem label inside)) remaining)

/-- What no service call, no opening and no closing changes about the world holds
of every machine a run reaches. -/
theorem Run.world_invariant (Invariant : World → Prop)
    (performed : ∀ thread oracle command world, Invariant world →
      Invariant (system.perform thread oracle command world).1)
    (opened : ∀ thread world, Invariant world → Invariant (system.opens thread world))
    (closed : ∀ thread world, Invariant world → Invariant (system.closes thread world))
    (run : Run system permits before labels after) (initially : Invariant before.world) :
    Invariant after.world := by
  have resumed : ∀ (machine : Machine S World Task) (thread : Thread) (task : Task)
      (past : List S.Event) (program : Program S Unit), Invariant machine.world →
      Invariant (machine.resume system thread task past program).world := by
    intro machine thread task past program holds
    cases program with
    | issue command next => exact holds
    | done | fail => exact closed thread _ holds
  induction run with
  | rest => exact initially
  | step _ label _ stepped ih =>
    cases label with
    | start thread task =>
      simp only [Machine.step, Option.ite_none_right_eq_some, Option.some.injEq] at stepped
      obtain ⟨_, rfl⟩ := stepped
      exact resumed _ _ _ _ _ (opened thread _ ih)
    | run thread oracle =>
      simp only [Machine.step, Option.map_eq_some_iff] at stepped
      obtain ⟨running, _, rfl⟩ := stepped
      exact resumed _ _ _ _ _ (performed thread oracle running.command _ ih)
    | crash thread =>
      simp only [Machine.step, Option.map_eq_some_iff] at stepped
      obtain ⟨running, _, rfl⟩ := stepped
      exact closed thread _ ih

end Steps

/-- The machine as a protocol sees it. -/
structure View (S : Signature) (World Task : Type) (Phase : Type u) where
  world : World
  phases : Thread → Phase
  started : List Task
  trace : List (Thread × S.Event)

/-- Which labels a run may take, judged by the view before the step. `dies`
concerns a thread that crashes, or whose task ends by raising. -/
structure Discipline (S : Signature) (World Oracle Task : Type) (Phase : Type u) where
  starts : View S World Task Phase → Thread → Task → Prop
  runs : View S World Task Phase → Thread → Oracle → S.Command → Prop
  dies : View S World Task Phase → Thread → Prop

section Views

variable {S : Signature} {World Oracle Task : Type} {Phase : Type u}

/-- The phase a protocol assigns to a thread: the answered commands of its task
read from the task's initial phase. -/
def Protocol.phaseOf (protocol : Protocol S Task Phase) : Option (Running S Task) → Phase
  | none => protocol.idle
  | some running =>
      running.past.foldl (fun phase event => protocol.next phase event.1 event.2)
        (protocol.initial running.task)

def Machine.view (protocol : Protocol S Task Phase) (machine : Machine S World Task) :
    View S World Task Phase :=
  ⟨machine.world, fun thread => protocol.phaseOf (machine.threads thread), machine.started,
    machine.trace⟩

namespace View

variable (service : Service S World Oracle) (protocol : Protocol S Task Phase)

def start (view : View S World Task Phase) (thread : Thread) (task : Task) :
    View S World Task Phase :=
  { view with
    world := service.opens thread view.world
    phases := Function.update view.phases thread (protocol.initial task)
    started := view.started ++ [task] }

def perform (view : View S World Task Phase) (thread : Thread) (oracle : Oracle)
    (command : S.Command) : View S World Task Phase :=
  let result := service.perform thread oracle command view.world
  { view with
    world := result.1
    phases := Function.update view.phases thread
      (protocol.next (view.phases thread) command result.2)
    trace := view.trace ++ [(thread, ⟨command, result.2⟩)] }

def stop (view : View S World Task Phase) (thread : Thread) : View S World Task Phase :=
  { view with
    world := service.closes thread view.world
    phases := Function.update view.phases thread protocol.idle }

end View

namespace Discipline

def any : Discipline S World Oracle Task Phase :=
  ⟨fun _ _ _ => True, fun _ _ _ _ => True, fun _ _ => True⟩

/-- The label respects the discipline in this machine. -/
def Permits (discipline : Discipline S World Oracle Task Phase)
    (system : System S World Oracle Task) (protocol : Protocol S Task Phase)
    (machine : Machine S World Task) : Label Oracle Task → Prop
  | .start thread task =>
      discipline.starts (machine.view protocol) thread task ∧
        ∀ failure, system.code task = .fail failure →
          discipline.dies ((machine.view protocol).start system.toService protocol thread task)
            thread
  | .run thread oracle => ∀ running, machine.threads thread = some running →
      discipline.runs (machine.view protocol) thread oracle running.command ∧
        ∀ failure, running.next (system.perform thread oracle running.command machine.world).2 =
            .fail failure →
          discipline.dies ((machine.view protocol).perform system.toService protocol thread oracle
            running.command) thread
  | .crash thread => discipline.dies (machine.view protocol) thread

end Discipline

end Views

section Simulation

variable {S : Signature} {World Oracle Task : Type} {Phase : Type u}
  (system : System S World Oracle Task) (protocol : Protocol S Task Phase)
  (discipline : Discipline S World Oracle Task Phase)
  (returns : Phase → Prop) (raises : S.Failure → Phase → Prop)

/-- The rest of every running task follows the protocol from its phase. -/
def Machine.Conforms (machine : Machine S World Task) : Prop :=
  ∀ thread running, machine.threads thread = some running →
    (Program.issue running.command running.next).Follows protocol (fun _ => returns) raises
      (protocol.phaseOf (some running))

/-- A step of the view: only the phases say what a thread can do. -/
inductive View.Step : View S World Task Phase → View S World Task Phase → Prop where
  | started (view : View S World Task Phase) (thread : Thread) (task : Task)
      (idle : view.phases thread = protocol.idle)
      (permitted : discipline.starts view thread task) :
      View.Step view (view.start system.toService protocol thread task)
  | performed (view : View S World Task Phase) (thread : Thread) (oracle : Oracle)
      (command : S.Command) (allowed : protocol.allows (view.phases thread) command)
      (permitted : discipline.runs view thread oracle command) :
      View.Step view (view.perform system.toService protocol thread oracle command)
  | returned (view : View S World Task Phase) (thread : Thread)
      (ended : returns (view.phases thread)) :
      View.Step view (view.stop system.toService protocol thread)
  | raised (view : View S World Task Phase) (thread : Thread) (failure : S.Failure)
      (ended : raises failure (view.phases thread)) (permitted : discipline.dies view thread) :
      View.Step view (view.stop system.toService protocol thread)
  | crashed (view : View S World Task Phase) (thread : Thread)
      (permitted : discipline.dies view thread) :
      View.Step view (view.stop system.toService protocol thread)

/-- What a protocol needs of a system: the services keep their promises about
answers, and every task the discipline lets start follows the protocol. -/
structure Governs : Prop where
  answers : ∀ thread oracle command world,
    protocol.possible command (system.perform thread oracle command world).2
  tasks : ∀ view thread task, discipline.starts view thread task →
    (system.code task).Follows protocol (fun _ => returns) raises (protocol.initial task)

variable {system protocol discipline returns raises}

theorem Machine.atRest_conforms (world : World) :
    (Machine.atRest world : Machine S World Task).Conforms protocol returns raises :=
  nofun

theorem Protocol.phases_update (threads : Thread → Option (Running S Task)) (thread : Thread)
    (running : Option (Running S Task)) :
    (fun other => protocol.phaseOf (Function.update threads thread running other)) =
      Function.update (fun other => protocol.phaseOf (threads other)) thread
        (protocol.phaseOf running) := by
  funext other
  by_cases same : other = thread
  · subst same
    simp
  · simp [same]

/-- Conformance is a condition on each thread, so replacing one thread needs
only that thread's new program. -/
theorem Machine.Conforms.update {machine : Machine S World Task}
    (conforms : machine.Conforms protocol returns raises) (thread : Thread)
    (running : Option (Running S Task)) (world : World) (started : List Task)
    (trace : List (Thread × S.Event))
    (follows : ∀ current, running = some current →
      (Program.issue current.command current.next).Follows protocol (fun _ => returns) raises
        (protocol.phaseOf (some current))) :
    Machine.Conforms protocol returns raises
      ⟨world, Function.update machine.threads thread running, started, trace⟩ := by
  intro other current found
  by_cases same : other = thread
  · subst same
    exact follows current (by simpa using found)
  · exact conforms other current (by simpa [same] using found)

/-- Keeping a program in its thread, or closing its task, gives a conforming
machine whose view is the given one or that view after one stop. -/
theorem Machine.resume_simulates (machine : Machine S World Task)
    (conforms : machine.Conforms protocol returns raises) (thread : Thread) (task : Task)
    (past : List S.Event) (program : Program S Unit) (view : View S World Task Phase)
    (world : view.world = machine.world) (started : view.started = machine.started)
    (trace : view.trace = machine.trace)
    (phases : view.phases = Function.update (machine.view protocol).phases thread
      (past.foldl (fun phase event => protocol.next phase event.1 event.2)
        (protocol.initial task)))
    (follows : program.Follows protocol (fun _ => returns) raises (view.phases thread))
    (mayDie : ∀ failure, program = .fail failure → discipline.dies view thread) :
    (machine.resume system thread task past program).Conforms protocol returns raises ∧
      Relation.ReflTransGen (View.Step system protocol discipline returns raises) view
        ((machine.resume system thread task past program).view protocol) := by
  have closed : (View.stop system.toService protocol view thread) =
      Machine.view protocol ⟨system.closes thread machine.world,
        Function.update machine.threads thread none, machine.started, machine.trace⟩ := by
    simp only [View.stop, Machine.view, world, started, trace, phases, Function.update_idem,
      Protocol.phases_update]
    rfl
  have stopConforms : Machine.Conforms protocol returns raises
      ⟨system.closes thread machine.world, Function.update machine.threads thread none,
        machine.started, machine.trace⟩ :=
    conforms.update thread none _ _ _ nofun
  cases program with
  | done value =>
    refine ⟨stopConforms, .single ?_⟩
    have stop : View.Step system protocol discipline returns raises view _ :=
      .returned view thread follows
    exact closed ▸ stop
  | fail failure =>
    refine ⟨stopConforms, .single ?_⟩
    have stop : View.Step system protocol discipline returns raises view _ :=
      .raised view thread failure follows (mayDie failure rfl)
    exact closed ▸ stop
  | issue command next =>
    have phase : view.phases thread = protocol.phaseOf (some ⟨task, past, command, next⟩) := by
      rw [phases, Function.update_self]
      rfl
    refine ⟨conforms.update thread _ _ _ _ ?_, ?_⟩
    · intro current found
      cases found
      exact phase ▸ follows
    · have same : view = (machine.resume system thread task past (.issue command next)).view
          protocol := by
        obtain ⟨viewWorld, viewPhases, viewStarted, viewTrace⟩ := view
        simp only at world started trace phases
        subst world started trace phases
        simp only [Machine.resume, Machine.view, Protocol.phases_update]
        rfl
      exact same ▸ Relation.ReflTransGen.refl

/-- What a machine step does, seen through the protocol: the next machine
conforms again, and its view is reached by view steps. -/
theorem Machine.step_simulates (governs : Governs system protocol discipline returns raises)
    {machine after : Machine S World Task}
    (conforms : machine.Conforms protocol returns raises) {label : Label Oracle Task}
    (permitted : discipline.Permits system protocol machine label)
    (stepped : machine.step system label = some after) :
    after.Conforms protocol returns raises ∧
      Relation.ReflTransGen (View.Step system protocol discipline returns raises)
        (machine.view protocol) (after.view protocol) := by
  cases label with
  | start thread task =>
    simp only [Machine.step, Option.isNone_iff_eq_none, Option.ite_none_right_eq_some,
      Option.some.injEq] at stepped
    obtain ⟨idle, rfl⟩ := stepped
    have phaseIdle : (machine.view protocol).phases thread = protocol.idle := by
      simp [Machine.view, idle, Protocol.phaseOf]
    have begun : View.Step system protocol discipline returns raises (machine.view protocol) _ :=
      .started _ thread task phaseIdle permitted.1
    obtain ⟨nextConforms, reached⟩ := Machine.resume_simulates
      { machine with
        world := system.opens thread machine.world
        started := machine.started ++ [task] }
      conforms thread task [] (system.code task)
      ((machine.view protocol).start system.toService protocol thread task) rfl rfl rfl rfl
      (by simpa [View.start] using governs.tasks _ _ _ permitted.1) permitted.2
    exact ⟨nextConforms, .head begun reached⟩
  | run thread oracle =>
    simp only [Machine.step, Option.map_eq_some_iff] at stepped
    obtain ⟨running, found, rfl⟩ := stepped
    obtain ⟨runs, dies⟩ := permitted running found
    obtain ⟨allowed, answered⟩ := conforms thread running found
    have phase : (machine.view protocol).phases thread = protocol.phaseOf (some running) := by
      simp [Machine.view, found]
    have performed : View.Step system protocol discipline returns raises
        (machine.view protocol) _ :=
      .performed _ thread oracle running.command (phase ▸ allowed) runs
    obtain ⟨nextConforms, reached⟩ := Machine.resume_simulates
      { machine with
        world := (system.perform thread oracle running.command machine.world).1
        trace := machine.trace ++ [(thread, ⟨running.command,
          (system.perform thread oracle running.command machine.world).2⟩)] }
      conforms thread running.task
      (running.past ++ [⟨running.command,
        (system.perform thread oracle running.command machine.world).2⟩])
      (running.next (system.perform thread oracle running.command machine.world).2)
      ((machine.view protocol).perform system.toService protocol thread oracle running.command)
      rfl rfl rfl
      (by
        simp only [View.perform, phase, Protocol.phaseOf, List.foldl_append, List.foldl_cons,
          List.foldl_nil]
        rfl)
      (by
        simpa [View.perform, Machine.view, found] using
          answered _ (governs.answers thread oracle running.command machine.world))
      dies
    exact ⟨nextConforms, .head performed reached⟩
  | crash thread =>
    simp only [Machine.step, Option.map_eq_some_iff] at stepped
    obtain ⟨running, found, rfl⟩ := stepped
    refine ⟨conforms.update thread none _ _ _ nofun, .single ?_⟩
    have stop : View.Step system protocol discipline returns raises (machine.view protocol) _ :=
      .crashed _ thread permitted
    have closed : (machine.view protocol).stop system.toService protocol thread =
        Machine.view protocol ⟨system.closes thread machine.world,
          Function.update machine.threads thread none, machine.started, machine.trace⟩ := by
      simp only [View.stop, Machine.view, Protocol.phases_update]
      rfl
    exact closed ▸ stop

section Simulating

variable {before after : Machine S World Task} {labels : List (Label Oracle Task)}

/-- Along a permitted run every machine conforms to the protocol, and its view
is reached from the first one by view steps. -/
theorem Run.simulates (governs : Governs system protocol discipline returns raises)
    (run : Run system (discipline.Permits system protocol) before labels after)
    (conforms : before.Conforms protocol returns raises) :
    after.Conforms protocol returns raises ∧
      Relation.ReflTransGen (View.Step system protocol discipline returns raises)
        (before.view protocol) (after.view protocol) := by
  induction run with
  | rest => exact ⟨conforms, .refl⟩
  | step _ label permitted stepped ih =>
    obtain ⟨middleConforms, reached⟩ := ih
    obtain ⟨afterConforms, next⟩ := Machine.step_simulates governs middleConforms permitted stepped
    exact ⟨afterConforms, reached.trans next⟩

theorem Run.unrestricted {permits : Machine S World Task → Label Oracle Task → Prop}
    (run : Run system permits before labels after) :
    Run system (Discipline.any.Permits system protocol) before labels after := by
  refine run.mono fun machine label _ => ?_
  cases label with
  | start thread task => exact ⟨trivial, fun _ _ => trivial⟩
  | run thread oracle => exact fun _ _ => ⟨trivial, fun _ _ => trivial⟩
  | crash thread => exact trivial

/-- The invariant rule: what every step of the view preserves holds of the
view at the end of every permitted run. -/
theorem Run.invariant (governs : Governs system protocol discipline returns raises)
    (Invariant : View S World Task Phase → Prop)
    (preserved : ∀ view next, Invariant view →
      View.Step system protocol discipline returns raises view next → Invariant next)
    (run : Run system (discipline.Permits system protocol) before labels after)
    (conforms : before.Conforms protocol returns raises)
    (initially : Invariant (before.view protocol)) : Invariant (after.view protocol) := by
  have reached := (run.simulates governs conforms).2
  generalize after.view protocol = last at reached ⊢
  induction reached with
  | refl => exact initially
  | tail _ stepped ih => exact preserved _ _ ih stepped

end Simulating

end Simulation

end Interleaving
