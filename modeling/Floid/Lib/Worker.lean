import Floid.Lib.Transition

/-!
A worker that holds a lock, but lets go of it around some calls. A segment is its run
up to the end or to such a call; others may change the state before it goes on. What a
segment ensures is said relative to the changes others are relied on to make.
-/

namespace Floid.Lib

inductive Segment (State Call Answer Result : Type) where
  | done (result : Result) (state : State)
  | unlocked (call : Call) (state : State)
      (resume : Answer → State → Segment State Call Answer Result)

namespace Segment

variable {State Call Answer Result Final : Type}

def bind : Segment State Call Answer Result →
    (Result → State → Segment State Call Answer Final) → Segment State Call Answer Final
  | .done result state, next => next result state
  | .unlocked call state resume, next =>
      .unlocked call state fun answer changed => (resume answer changed).bind next

/-- The invariant holds at every call and the postcondition at the end, whatever others
do meanwhile that they are relied on to do. -/
def Ensures (invariant : State → Prop) (rely : Call → Answer → State → State → Prop)
    (post : Result → State → Prop) : Segment State Call Answer Result → Prop
  | .done result state => post result state
  | .unlocked call state resume => invariant state ∧ ∀ answer changed,
      rely call answer state changed → (resume answer changed).Ensures invariant rely post

variable {invariant : State → Prop} {rely : Call → Answer → State → State → Prop}
  {post : Result → State → Prop}

theorem Ensures.bind {final : Final → State → Prop} {segment : Segment State Call Answer Result}
    {next : Result → State → Segment State Call Answer Final}
    (ensures : segment.Ensures invariant rely post)
    (continues : ∀ result state, post result state → (next result state).Ensures invariant rely final) :
    (segment.bind next).Ensures invariant rely final := by
  induction segment with
  | done result state =>
    rw [Ensures] at ensures
    exact continues result state ensures
  | unlocked call state resume ih =>
    rw [Ensures] at ensures
    rw [Segment.bind, Ensures]
    exact ⟨ensures.1, fun answer changed relied =>
      ih answer changed (ensures.2 answer changed relied)⟩

theorem Ensures.mono {weaker : Result → State → Prop} {segment : Segment State Call Answer Result}
    (ensures : segment.Ensures invariant rely post)
    (implies : ∀ result state, post result state → weaker result state) :
    segment.Ensures invariant rely weaker := by
  induction segment with
  | done result state => exact implies result state ensures
  | unlocked call state resume ih =>
    exact ⟨ensures.1, fun answer changed relied => ih answer changed (ensures.2 answer changed relied)⟩

end Segment

/-- A worker among others. Between two segments it is at a control point, where the lock
may be free; an event is something others do, and may need the lock to be free. -/
structure Worker (State Call Answer Control Action Event : Type) where
  initial : State → Control → Prop
  lockFree : Control → Bool
  step : Control → Action → State → Option (Segment State Call Answer Control)
  event : Bool → Event → State → State → Prop

namespace Worker

variable {State Call Answer Control Action Event : Type}

inductive Place (State Call Answer Control : Type) where
  | between (control : Control)
  | inside (call : Call) (resume : Answer → State → Segment State Call Answer Control)

structure Configuration (State Call Answer Control : Type) where
  state : State
  place : Place State Call Answer Control

inductive Label (Answer Action Event : Type) where
  | event (event : Event)
  | step (action : Action)
  | resume (answer : Answer)

def settle : Segment State Call Answer Control → Configuration State Call Answer Control
  | .done control state => ⟨state, .between control⟩
  | .unlocked call state resume => ⟨state, .inside call resume⟩

def Place.lockFree (worker : Worker State Call Answer Control Action Event) : Place State Call Answer Control → Bool
  | .between control => worker.lockFree control
  | .inside _ _ => true

def system (worker : Worker State Call Answer Control Action Event) :
    TransitionSystem (Configuration State Call Answer Control) (Label Answer Action Event) where
  initial before := ∃ control, before.place = .between control ∧ worker.initial before.state control
  step before label after :=
    match label, before.place with
    | .event event, place =>
        after.place = place ∧ worker.event (place.lockFree worker) event before.state after.state
    | .step action, .between control =>
        ∃ segment, worker.step control action before.state = some segment ∧ settle segment = after
    | .resume answer, .inside _ resume => settle (resume answer before.state) = after
    | _, _ => False

structure Condition (State Call Answer Control Action Event : Type) where
  event : Event → State → Prop
  step : Control → Action → State → Prop
  answer : Call → Answer → State → Prop

def Condition.Holds (condition : Condition State Call Answer Control Action Event)
    (before : Configuration State Call Answer Control) (label : Label Answer Action Event) : Prop :=
  match label, before.place with
  | .event event, _ => condition.event event before.state
  | .step action, .between control => condition.step control action before.state
  | .resume answer, .inside call _ => condition.answer call answer before.state
  | _, _ => True

/-- A rely-guarantee proof about a worker: an invariant of the lock-free states, one for
each control point, and what others preserve. -/
structure Proof (worker : Worker State Call Answer Control Action Event)
    (condition : Condition State Call Answer Control Action Event) where
  invariant : State → Prop
  point : Control → State → Prop
  rely : State → State → Prop
  starts : ∀ state control, worker.initial state control → point control state
  kept : ∀ control event before after, point control before → condition.event event before →
    worker.event (worker.lockFree control) event before after → point control after
  rely_refl : ∀ state, invariant state → rely state state
  rely_trans : ∀ first second third, rely first second → rely second third → rely first third
  rely_event : ∀ event before after, invariant before → condition.event event before →
    worker.event true event before after → rely before after
  rely_invariant : ∀ before after, rely before after → invariant after
  stepped : ∀ control action before segment, point control before →
    condition.step control action before → worker.step control action before = some segment →
    segment.Ensures invariant
      (fun call answer state changed => rely state changed ∧ condition.answer call answer changed)
      point

variable {worker : Worker State Call Answer Control Action Event}
  {condition : Condition State Call Answer Control Action Event}

abbrev Proof.Follows (proof : worker.Proof condition)
    (segment : Segment State Call Answer Control) : Prop :=
  segment.Ensures proof.invariant
    (fun call answer state changed =>
      proof.rely state changed ∧ condition.answer call answer changed) proof.point

def Proof.Maintained (proof : worker.Proof condition)
    (configuration : Configuration State Call Answer Control) : Prop :=
  match configuration.place with
  | .between control => proof.point control configuration.state
  | .inside call resume => proof.invariant configuration.state ∧
      ∀ answer changed, proof.rely configuration.state changed →
        condition.answer call answer changed → proof.Follows (resume answer changed)

variable {segment : Segment State Call Answer Control}

theorem Proof.maintained_settle (proof : worker.Proof condition) (follows : proof.Follows segment) :
    proof.Maintained (settle segment) := by
  cases segment with
  | done control state =>
    rw [Proof.Follows, Segment.Ensures] at follows
    exact follows
  | unlocked call state resume =>
    rw [Proof.Follows, Segment.Ensures] at follows
    exact ⟨follows.1, fun answer changed relied allowed =>
      follows.2 answer changed ⟨relied, allowed⟩⟩

theorem Proof.maintained_step (proof : worker.Proof condition)
    {before after : Configuration State Call Answer Control} {label : Label Answer Action Event}
    (maintained : proof.Maintained before) (allowed : condition.Holds before label)
    (stepped : worker.system.step before label after) : proof.Maintained after := by
  obtain ⟨state, place⟩ := before
  obtain ⟨changed, place'⟩ := after
  cases label with
  | event event =>
    obtain ⟨samePlace, happened⟩ := stepped
    obtain rfl : place' = place := samePlace
    cases place' with
    | between control => exact proof.kept control event state changed maintained allowed happened
    | inside call resume =>
      have relied := proof.rely_event event state changed maintained.1 allowed happened
      exact ⟨proof.rely_invariant _ _ relied, fun answer later laterRelied =>
        maintained.2 answer later (proof.rely_trans _ _ _ relied laterRelied)⟩
  | step action =>
    cases place with
    | between control =>
      obtain ⟨segment, taken, settled⟩ := stepped
      rw [← settled]
      exact proof.maintained_settle
        (proof.stepped control action state segment maintained allowed taken)
    | inside call resume => exact stepped.elim
  | resume answer =>
    cases place with
    | between control => exact stepped.elim
    | inside call resume =>
      rw [← show settle (resume answer state) = _ from stepped]
      exact proof.maintained_settle
        (maintained.2 answer state (proof.rely_refl state maintained.1) allowed)

theorem Proof.maintained (proof : worker.Proof condition) {configuration : Configuration State Call Answer Control}
    (reached : (worker.system.restrict condition.Holds).Reachable configuration) :
    proof.Maintained configuration := by
  apply reached.invariant
  · rintro ⟨state, place⟩ ⟨control, rfl, starts⟩
    exact proof.starts state control starts
  · rintro before label after maintained ⟨allowed, stepped⟩
    exact proof.maintained_step maintained allowed stepped

/-! Runs are put together a step at a time. -/

variable {allowed : Configuration State Call Answer Control → Label Answer Action Event → Prop}
  {state after : State}

theorem reach_event {place : Place State Call Answer Control}
    (reached : (worker.system.restrict allowed).Reachable ⟨state, place⟩) (event : Event)
    (allows : allowed ⟨state, place⟩ (.event event))
    (happens : worker.event (place.lockFree worker) event state after) :
    (worker.system.restrict allowed).Reachable ⟨after, place⟩ :=
  .step reached ⟨allows, rfl, happens⟩

theorem reach_step {control : Control}
    (reached : (worker.system.restrict allowed).Reachable ⟨state, .between control⟩)
    (action : Action) (allows : allowed ⟨state, .between control⟩ (.step action))
    (taken : worker.step control action state = some segment) :
    (worker.system.restrict allowed).Reachable (settle segment) :=
  .step reached ⟨allows, segment, taken, rfl⟩

theorem reach_resume {call : Call} {resume : Answer → State → Segment State Call Answer Control}
    (reached : (worker.system.restrict allowed).Reachable ⟨state, .inside call resume⟩)
    (answer : Answer) (allows : allowed ⟨state, .inside call resume⟩ (.resume answer)) :
    (worker.system.restrict allowed).Reachable (settle (resume answer state)) :=
  .step reached ⟨allows, rfl⟩

end Worker

end Floid.Lib
